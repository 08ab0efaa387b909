import BuildCards.IdSupply
import BuildCards.Json.Basic
import BuildCards.Packages
import BuildCards.Recipe

/-!
# Cards

A card is a recipe of one of four kinds or a list of packages.  What is said about recipes and lists
of packages is said here about cards: how they are read, written and copied.

Making cards from text has three results: what was reported, the supply of identifiers that is
left, and the cards or the fault that kept them from being made.  A `Reading` holds all three, so a
failed one still tells what was reported and how many identifiers it drew.

In JSON (`Card.toJson`) every field of a card but its source has a member of an object, and the
first member gives the label of its kind.
-/

namespace BuildCards

/-- One step of a build. -/
inductive Card
  | recipe (kind : RecipeKind) (recipe : Recipe)
  | packages (packages : Packages)
  deriving DecidableEq

namespace Card

variable (card : Card)

/-! ### Parts -/

/-- The kind of a card. -/
def kind : Card → Kind
  | recipe kind _ => kind
  | packages _ => .packages

/-- The identifier of a card. -/
def id : Card → Text
  | recipe _ r => r.id
  | packages p => p.id

/-- The card was read from a text. -/
def fromText : Card → Bool
  | recipe _ r => r.fromText
  | packages p => p.fromText

/-- The text that a card was read from. -/
def source : Card → Option Text
  | recipe _ r => r.source
  | packages p => p.source

/-- The card with another identifier. -/
def withId (id : Text) : Card → Card
  | recipe kind r => recipe kind { r with id := id }
  | packages p => packages { p with id := id }

/-! ### Reading and writing -/

/-- The card of no text. -/
def blank (kind : Kind) (id : Text) : Card :=
  match kind with
  | .recipe kind => recipe kind (Recipe.blank kind id)
  | .packages => packages (Packages.blank id)

/-- The card of this kind in a text. -/
def parse (kind : Kind) (id : Text) (source : Option Text) : Except Fault Card :=
  match kind with
  | .recipe kind => (Recipe.parse kind id source).map (recipe kind)
  | .packages => .ok (packages (Packages.parse id source))

/-- What is read is a recipe of the kind asked for, or a list of packages. -/
theorem eq_of_parse {kind : Kind} {id : Text} {source : Option Text} {card : Card}
    (h : parse kind id source = .ok card) :
    (∃ k r, kind = .recipe k ∧ Recipe.parse k id source = .ok r ∧ card = recipe k r) ∨
      kind = .packages ∧ card = packages (Packages.parse id source) := by
  cases kind with
  | recipe k =>
    rw [parse] at h
    cases hr : Recipe.parse k id source with
    | error fault => simp [hr, Except.map] at h
    | ok r =>
      rw [hr, Except.map, Except.ok.injEq] at h
      exact .inl ⟨k, r, rfl, hr, h.symm⟩
  | packages =>
    rw [parse, Except.ok.injEq] at h
    exact .inr ⟨rfl, h.symm⟩

/-- The identifier has no part in how a text is read. -/
theorem parse_withId (kind : Kind) (id id' : Text) (source : Option Text) :
    parse kind id' source = (parse kind id source).map (withId id') := by
  cases kind with
  | recipe kind =>
    simp only [parse, Recipe.parse_withId kind id id' source]
    cases Recipe.parse kind id source <;> rfl
  | packages =>
    simp only [parse, Packages.parse_withId id id' source]
    rfl

/-- What is reported while a card is read. -/
def log (kind : Kind) (source : Option Text) : List Event :=
  match kind with
  | .recipe kind => Recipe.log kind source
  | .packages => []

/-- The block of a card. -/
def render : Card → Text
  | recipe kind r => r.render kind
  | packages p => p.render

/-- The identifier has no part in what is written. -/
theorem render_withId (id : Text) : (card.withId id).render = card.render := by
  cases card <;> rfl

/-! ### Copying -/

/-- A copy with the same identifier, its commands in the form that their text reads as. -/
def clone : Card → Card
  | recipe kind r => recipe kind r.clone
  | packages p => packages p

/-- A copy with an identifier of its own. -/
def duplicate (id : Text) : Card := card.clone.withId id

end Card

/-! ### Readings -/

/-- What came of an attempt to read. -/
structure Reading (α : Type) where
  /-- What was reported, in order. -/
  events : List Event
  /-- The supply of identifiers that is left. -/
  ids : IdSupply
  /-- What was read, or why nothing was. -/
  result : Except Fault α

namespace Card

/-- Reads a card.  Its identifier is drawn before the text is looked at. -/
def read (kind : Kind) (source : Option Text) (ids : IdSupply) : Reading Card where
  events := Card.log kind source
  ids := ids.skip 1
  result := Card.parse kind ids.next source

/-- Makes the card of no text. -/
def blankFrom (kind : Kind) (ids : IdSupply) : Reading Card :=
  ⟨[], ids.skip 1, .ok (blank kind ids.next)⟩

/-- Makes a copy with an identifier of its own. -/
def duplicateFrom (card : Card) (ids : IdSupply) : Reading Card :=
  ⟨[], ids.skip 1, .ok (card.duplicate ids.next)⟩

end Card

/-! ### JSON -/

/-- The command as a JSON object. -/
def Command.toJson (c : Command) : Json :=
  .object [("instruction".toList, (c.instruction.map fun i => .string i.keyword).getD .null),
    ("body".toList, .string c.body),
    ("cache".toList, .bool c.cache)]

namespace Card

/-- The card as a JSON object. -/
def toJson (card : Card) : Json :=
  match card with
  | recipe _ r =>
    .object [("type".toList, .string card.kind.label),
      ("id".toList, .string r.id),
      ("name".toList, .string r.name),
      ("path".toList, .string r.path),
      ("commands".toList, .array (r.commands.map Command.toJson)),
      ("has_find_replace".toList, .bool r.hasBootstrap),
      ("legacy_add".toList, .bool r.legacyAdd),
      ("from_origin_text".toList, .bool r.fromText)]
  | packages p =>
    .object [("type".toList, .string card.kind.label),
      ("id".toList, .string p.id),
      ("package_list".toList, .string p.packageList),
      ("from_origin_text".toList, .bool p.fromText)]

/-- The cards as a JSON array. -/
def listToJson (cards : List Card) : Json := .array (cards.map toJson)

end Card

end BuildCards
