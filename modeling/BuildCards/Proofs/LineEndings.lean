import BuildCards.Packages
import BuildCards.Proofs.RecipeLines
import BuildCards.Text.Returns

/-!
# Carriage returns at the ends of lines

A text can end its lines with carriage returns, and on the way through a document they get lost
(`Text.dropReturns`).  Here it is proved that a card is read alike with and without them.

* `Json.parse?_concat_return`: a JSON text can be followed by one.
* `AddHeader.agree_parse_dropReturn`: a header with one is the same header.  Only in the legacy form
  can a carriage return at the end belong to the path, after a backslash.
* `Recipe.agree_parseText_dropReturns` and `Packages.packageList_parse_dropReturns`: the texts of
  cards.

Two readings *agree* (`Agree`) if both fail, with related faults, or both succeed, with related
results.
-/

namespace BuildCards

/-! ### Readings that agree -/

/-- Both readings fail, with faults that `E` relates, or both succeed, with results that `R`
relates. -/
def Agree {α β : Type} (E : Fault → Fault → Prop) (R : α → β → Prop) :
    Except Fault α → Except Fault β → Prop
  | .error fault, .error fault' => E fault fault'
  | .ok a, .ok b => R a b
  | _, _ => False

theorem agree_iff {α β : Type} {E : Fault → Fault → Prop} {R : α → β → Prop} {x : Except Fault α}
    {y : Except Fault β} : Agree E R x y ↔
      (∃ fault fault', x = .error fault ∧ y = .error fault' ∧ E fault fault') ∨
        ∃ a b, x = .ok a ∧ y = .ok b ∧ R a b := by
  cases x <;> cases y <;> simp [Agree]

/-- The faults are of one kind, whatever they quote. -/
def Fault.SameKind : Fault → Fault → Prop
  | .instruction _, .instruction _ => True
  | .addLine _, .addLine _ => True
  | .unknownKind _, .unknownKind _ => True
  | .document _ _, .document _ _ => True
  | .io _, .io _ => True
  | _, _ => False

theorem Fault.SameKind.refl (fault : Fault) : fault.SameKind fault := by
  cases fault <;> trivial

/-! ### Headers -/

namespace Json

theorem Scan.finish_step_return (s : Scan) :
    (s.step '\x0d').1 ++ (s.step '\x0d').2.finish = s.finish := by
  cases s <;> simp [step, start, isSpace, isNumeral, finish]

/-- A JSON text can be followed by a carriage return. -/
theorem tokens_concat_return (t : Text) : tokens (t ++ ['\x0d']) = tokens t := by
  have hstep := Scan.finish_step_return (Scan.run .between t).2
  simp only [tokens, Scan.run_append, Scan.run, List.append_nil, List.append_assoc,
    hstep]

theorem parse?_concat_return (t : Text) : parse? (t ++ ['\x0d']) = parse? t := by
  rw [parse?, tokens_concat_return, parse?]

end Json

namespace AddHeader

/-- The headers say the same, up to blanks at the end of the path. -/
structure Alike (h h' : AddHeader) : Prop where
  /-- They add the same. -/
  name : h.name = h'.name
  /-- It goes to the same place. -/
  path : Text.trimEnd h.path = Text.trimEnd h'.path
  /-- They have the same form. -/
  legacy : h.legacy = h'.legacy

theorem splitName?_concat_return (escaped : Bool) (t : Text) :
    splitName? escaped (t ++ ['\x0d']) =
      (splitName? escaped t).map fun (name, rest) => (name, rest ++ ['\x0d']) := by
  induction t generalizing escaped with
  | nil => cases escaped <;> rfl
  | cons c t ih =>
    simp only [List.cons_append, splitName?, ih]
    split
    · split <;> rfl
    · cases splitName? (c == '\\') t with
      | some tokens => rfl
      | none => by_cases hc : c = ' ' <;> simp [hc]

/-- A carriage return at the end belongs to the path if a backslash stands before it. -/
theorem takePath_concat_return (escaped : Bool) (t : Text) :
    takePath escaped (t ++ ['\x0d']) = takePath escaped t ∨
      takePath escaped (t ++ ['\x0d']) = takePath escaped t ++ ['\x0d'] := by
  induction t generalizing escaped with
  | nil => cases escaped <;> decide
  | cons c t ih =>
    simp only [List.cons_append, takePath]
    split
    · exact .inl rfl
    · rcases ih (c == '\\') with h | h
      · exact .inl (by rw [h])
      · exact .inr (by rw [h, List.cons_append])

theorem Alike.refl (h : AddHeader) : h.Alike h := ⟨rfl, rfl, rfl⟩

theorem alike_ofStrings_concat_return (name path : Text) (legacy : Bool) :
    (ofStrings name (path ++ ['\x0d']) legacy).Alike (ofStrings name path legacy) := by
  refine ⟨rfl, ?_, rfl⟩
  have hdrop : Text.dropStart pathMark (path ++ ['\x0d']) =
      Text.dropStart pathMark path ++ ['\x0d'] := by
    rw [Text.dropStart, Text.dropStart, Text.afterStart?_concat (by decide)]
    cases Text.afterStart? pathMark path <;> rfl
  change Text.trimEnd (Text.dropStart pathMark (path ++ ['\x0d'])) = _
  rw [hdrop]
  exact Text.trimEnd_append_of_isBlank (by decide)

theorem agree_parse_concat_return (line : Text) :
    Agree Fault.SameKind Alike (parse (line ++ ['\x0d'])) (parse line) := by
  have hopening : '\x0d' ∉ opening := by decide
  unfold parse
  rw [Text.afterStart?_concat hopening]
  cases Text.afterStart? opening line with
  | none => trivial
  | some rest =>
    simp only [Option.map_some, Json.parse?_concat_return]
    split
    · exact Alike.refl _
    · trivial
    · -- no JSON: the carriage return comes after the first token
      rw [splitTokens?, splitTokens?, splitName?_concat_return]
      cases splitName? false rest with
      | none => trivial
      | some tokens =>
        obtain ⟨name, path⟩ := tokens
        simp only [Option.map_some]
        rcases takePath_concat_return false path with h | h
        · rw [h]
          exact Alike.refl _
        · rw [h]
          exact alike_ofStrings_concat_return _ _ _

/-- **A header can end in a carriage return.** -/
theorem agree_parse_dropReturn (line : Text) :
    Agree Fault.SameKind Alike (parse line) (parse (Text.dropReturn line)) := by
  rcases Text.dropReturn_cases line with h | h
  · have hagree := agree_parse_concat_return (Text.dropReturn line)
    rwa [← h] at hagree
  · rw [h]
    cases parse line with
    | error fault => exact Fault.SameKind.refl fault
    | ok header => exact Alike.refl header

end AddHeader

/-! ### Recipes -/

namespace Recipe

variable {kind : RecipeKind} {commands : List Command}

/-- The recipes say the same, up to blanks at the end of the path; they can have other identifiers
and be read from other texts. -/
structure Alike (r r' : Recipe) : Prop where
  /-- They add the same. -/
  name : r.name = r'.name
  /-- It goes to the same place. -/
  path : Text.trimEnd r.path = Text.trimEnd r'.path
  /-- They have the same commands. -/
  commands : r.commands = r'.commands
  /-- The bootstrap script runs before both or before none. -/
  hasBootstrap : r.hasBootstrap = r'.hasBootstrap
  /-- Their texts have headers of the same form. -/
  legacyAdd : r.legacyAdd = r'.legacyAdd
  /-- Both were read from a text or none was. -/
  fromText : r.fromText = r'.fromText

theorem bodyLines_eq (text : Text) :
    bodyLines text = Text.linesOfPieces ((text.splitOn '\n').drop 2) :=
  Text.drop_linesOfPieces 2 _

theorem headerLine_dropReturns (text : Text) :
    headerLine (Text.dropReturns text) = Text.dropReturn (headerLine text) := by
  rw [headerLine, headerLine, Text.lines, Text.lines, Text.splitOn_dropReturns]
  cases text.splitOn '\n' with
  | nil => rfl
  | cons p ps =>
    cases ps with
    | nil =>
      by_cases hp : p = []
      · subst hp
        rfl
      · by_cases hq : Text.dropReturn p = [] <;> simp [Text.linesOfPieces, hp, hq]
    | cons q ps => rfl

/-- Lines below the first two without carriage returns hold the same between their blanks. -/
theorem map_trim_drop_splitOn_dropReturns (text : Text) :
    ((((Text.dropReturns text).splitOn '\n').drop 2).map Bootstrap.migrate).map Text.trim =
      (((text.splitOn '\n').drop 2).map Bootstrap.migrate).map Text.trim := by
  simp [Text.splitOn_dropReturns, ← List.map_drop, Bootstrap.trim_migrate_dropReturn]

theorem holdsCommands_bodyLines_dropReturns (text : Text) :
    HoldsCommands (bodyLines (Text.dropReturns text)) commands ↔
      HoldsCommands (bodyLines text) commands := by
  rw [bodyLines_eq, bodyLines_eq, holdsCommands_linesOfPieces, holdsCommands_linesOfPieces]
  exact holdsCommands_congr (map_trim_drop_splitOn_dropReturns text)

theorem opens_migratedLines_dropReturns (text : Text) :
    Bootstrap.opens (migratedLines (Text.dropReturns text)) =
      Bootstrap.opens (migratedLines text) := by
  rw [migratedLines, migratedLines, bodyLines_eq, bodyLines_eq, opens_linesOfPieces,
    opens_linesOfPieces]
  exact Bootstrap.opens_congr (map_trim_drop_splitOn_dropReturns text)

/-- Texts with headers that say the same and lines with the same commands are read alike. -/
theorem agree_parseText {text text' : Text}
    (hheader : Agree Fault.SameKind AddHeader.Alike (AddHeader.parse (headerLine text))
      (AddHeader.parse (headerLine text')))
    (hlines : ∀ commands, HoldsCommands (bodyLines text) commands ↔
      HoldsCommands (bodyLines text') commands)
    (hopens : Bootstrap.opens (migratedLines text) = Bootstrap.opens (migratedLines text'))
    (id id' : Text) :
    Agree Fault.SameKind Alike (parseText kind id text) (parseText kind id' text') := by
  rcases agree_iff.1 hheader with
    ⟨fault, fault', hread, hread', hsame⟩ | ⟨header, header', hread, hread', halike⟩
  · rw [parseText_eq_error_iff.2 (.inl hread), parseText_eq_error_iff.2 (.inl hread')]
    exact hsame
  cases hparse : parseText kind id text with
  | ok r =>
    obtain ⟨header₀, commands, hheader₀, hholds, rfl⟩ := parseText_eq_ok_iff.1 hparse
    obtain rfl : header = header₀ := Except.ok.inj (hread.symm.trans hheader₀)
    have hparse' : parseText kind id' text' = .ok (ofParts kind id' header' commands text') :=
      parseText_eq_ok_iff.2 ⟨header', commands, hread', (hlines commands).1 hholds, rfl⟩
    rw [hparse']
    refine ⟨halike.name, ?_, rfl, hopens, halike.legacy, rfl⟩
    simp only [ofParts]
    split
    · rfl
    · exact halike.path
  | error fault =>
    cases hparse' : parseText kind id' text' with
    | ok r' =>
      -- the lines of the one text would hold the commands of the other
      obtain ⟨-, commands, -, hholds, -⟩ := parseText_eq_ok_iff.1 hparse'
      have hok : parseText kind id text = .ok (ofParts kind id header commands text) :=
        parseText_eq_ok_iff.2 ⟨header, commands, hread, (hlines commands).2 hholds, rfl⟩
      rw [hparse] at hok
      simp at hok
    | error fault' =>
      obtain ⟨line, rfl⟩ := exists_eq_instruction_of_parseText hread hparse
      obtain ⟨line', rfl⟩ := exists_eq_instruction_of_parseText hread' hparse'
      trivial

/-- **Recipes and carriage returns.**  A recipe is read alike without them. -/
theorem agree_parseText_dropReturns (kind : RecipeKind) (id id' text : Text) :
    Agree Fault.SameKind Alike (parseText kind id text)
      (parseText kind id' (Text.dropReturns text)) := by
  refine agree_parseText ?_ (fun commands => ?_) ?_ id id'
  · rw [headerLine_dropReturns]
    exact AddHeader.agree_parse_dropReturn _
  · exact (holdsCommands_bodyLines_dropReturns text).symm
  · exact (opens_migratedLines_dropReturns text).symm

end Recipe

/-! ### Lists of packages -/

namespace Packages

theorem words_withoutPreamble_dropReturns (text : Text) :
    Text.words (withoutPreamble (Text.dropReturns text)) = Text.words (withoutPreamble text) := by
  have hstart := @Text.afterStart?_dropReturns (Text.trimEnd preamble) (by decide) (by decide)
    (Text.trimStart text)
  rw [withoutPreamble, withoutPreamble, Text.trimStart_dropReturns, hstart]
  cases Text.afterStart? (Text.trimEnd preamble) (Text.trimStart text) with
  | some rest => exact Text.words_append_dropReturns [] rest
  | none =>
    exact Text.words_removeFirst_dropReturns (by decide) (by decide) (by decide) [] text

/-- A text that is not empty is read as what stands behind the preamble. -/
theorem parse_some (id : Text) {text : Text} (h : text ≠ []) :
    parse id (some text) = ⟨id, normalize (withoutPreamble text), true, some text⟩ := by
  obtain ⟨c, t, rfl⟩ := List.exists_cons_of_ne_nil h
  rfl

/-- **Lists of packages and carriage returns.**  The same packages are read without them. -/
theorem packageList_parse_dropReturns (id id' : Text) {text : Text} (h : ¬ Text.IsBlank text) :
    (parse id (some text)).packageList = (parse id' (some (Text.dropReturns text))).packageList ∧
      (parse id (some text)).fromText = (parse id' (some (Text.dropReturns text))).fromText := by
  have hne {text : Text} (h : ¬ Text.IsBlank text) : text ≠ [] := by
    rintro rfl
    exact h (by simp [Text.IsBlank])
  have h' : ¬ Text.IsBlank (Text.dropReturns text) := fun hb => h (Text.isBlank_dropReturns.1 hb)
  rw [parse_some id (hne h), parse_some id' (hne h')]
  refine ⟨?_, rfl⟩
  simp only [normalize, words_withoutPreamble_dropReturns]

end Packages

end BuildCards
