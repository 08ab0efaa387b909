import BuildCards.Document

/-!
# Sessions

Cards are made and copied one after the other, in any order, and all draw their identifiers from one
supply.  A session holds the cards made so far and what is left of the supply; an attempt to make
cards that fails leaves no card behind, but the identifiers that it drew are gone.
-/

namespace BuildCards

/-- A card of a session. -/
structure Session.Entry where
  /-- The card. -/
  card : Card
  /-- The position of the card that it was cloned from. -/
  original : Option Nat

/-- Cards and the supply that they got their identifiers from. -/
structure Session where
  /-- The cards, in the order in which they were made. -/
  entries : List Session.Entry
  /-- The supply of identifiers that is left. -/
  ids : IdSupply

namespace Session

/-- What makes cards.  Cards are named by their positions. -/
inductive Call
  | blank (kind : Kind)
  | read (kind : Kind) (source : Option Text)
  | document (text : Text)
  | clone (i : Nat)
  | duplicate (i : Nat)

/-- The session without cards. -/
def start (ids : IdSupply) : Session := ⟨[], ids⟩

variable (s : Session)

/-- The session with the cards that were read, if they were. -/
def keep {α : Type} (reading : Reading α) (cards : α → List Card) : Session :=
  match reading.result with
  | .ok a => ⟨s.entries ++ (cards a).map (⟨·, none⟩), reading.ids⟩
  | .error _ => ⟨s.entries, reading.ids⟩

/-- The session after a call; copies of a card that is not there are not made. -/
def perform : Call → Session
  | .blank kind => s.keep (Card.blankFrom kind s.ids) fun card => [card]
  | .read kind source => s.keep (Card.read kind source s.ids) fun card => [card]
  | .document text => s.keep (Document.parse text s.ids) fun cards => cards
  | .clone i =>
    match s.entries[i]? with
    | some e => { s with entries := s.entries ++ [⟨e.card.clone, some i⟩] }
    | none => s
  | .duplicate i =>
    match s.entries[i]? with
    | some e => s.keep (e.card.duplicateFrom s.ids) fun card => [card]
    | none => s

/-- The session after calls, from one without cards. -/
def run (ids : IdSupply) (calls : List Call) : Session := calls.foldl perform (start ids)

/-- The identifier of the card at a position. -/
def idAt? (i : Nat) : Option Text := s.entries[i]?.map fun e => e.card.id

/-- The card at position `j` was cloned from the one at position `i`. -/
def IsClone (i j : Nat) : Prop := ∃ e, s.entries[j]? = some e ∧ e.original = some i

end Session

end BuildCards
