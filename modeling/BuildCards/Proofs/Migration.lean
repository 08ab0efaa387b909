import BuildCards.Proofs.RecipeLines
import Mathlib.Logic.Function.Iterate

/-!
# Migrating a text

A recipe reads its lines from the third on with the former name of the script replaced.  So nothing
is changed by replacing it in the text (`Recipe.migrateBody`) before the recipe is read, and it
occurs in no command, nor in a copy of one.

The former name occurs in a text if some part of it is this name letter by letter
(`Bootstrap.IsFormerName`); that the scanner of `Bootstrap.migrate` finds just these parts is
`Bootstrap.holdsFormerName_iff`.  **Main theorem** (`Recipe.parse_migrateBody`): migration leaves no
occurrence, a second migration changes nothing, a text and the migrated text are read alike, and no
command that was read has an occurrence, however often it was copied.
-/

namespace BuildCards

/-! ### Occurrences -/

namespace Bootstrap

variable {word t : Text}

/-- The word is the former name, in any case of its letters. -/
def IsFormerName (word : Text) : Prop :=
  List.Forall₂ (fun l c => sameLetter l c = true) formerName word

theorem beginsWith_iff {letters : Text} : beginsWith letters t = true ↔
    ∃ word, List.Forall₂ (fun l c => sameLetter l c = true) letters word ∧ word <+: t := by
  induction letters generalizing t with
  | nil => simp [beginsWith]
  | cons l letters ih =>
    cases t with
    | nil => simp [beginsWith]
    | cons c t =>
      rw [beginsWith, Bool.and_eq_true, ih]
      constructor
      · rintro ⟨hc, word, hword, hprefix⟩
        exact ⟨c :: word, .cons hc hword, List.cons_prefix_cons.2 ⟨rfl, hprefix⟩⟩
      · rintro ⟨word, hword, hprefix⟩
        cases hword with
        | cons hc hword =>
          obtain ⟨rfl, hrest⟩ := List.cons_prefix_cons.1 hprefix
          exact ⟨hc, _, hword, hrest⟩

/-- The former name is found exactly where a part of the text is this name. -/
theorem holdsFormerName_iff :
    holdsFormerName t = true ↔ ∃ word, IsFormerName word ∧ word <:+: t := by
  induction t with
  | nil =>
    have hnil : ¬ IsFormerName [] := fun h => by cases h
    simp [holdsFormerName, hnil]
  | cons c t ih =>
    rw [holdsFormerName, Bool.or_eq_true, beginsWith_iff, ih]
    simp only [List.infix_cons_iff, and_or_left, exists_or]
    rfl

theorem not_infix_of_isFormerName (h : holdsFormerName t = false) (hword : IsFormerName word) :
    ¬ word <:+: t := by
  intro hinfix
  rw [holdsFormerName_iff.2 ⟨word, hword, hinfix⟩] at h
  exact Bool.noConfusion h

/-- A text is left alone exactly if the former name does not occur in it. -/
theorem migrate_eq_self_iff :
    migrate t = t ↔ ∀ word, IsFormerName word → ¬ word <:+: t := by
  constructor
  · intro h word hword
    exact not_infix_of_isFormerName (h ▸ holdsFormerName_migrate t) hword
  · intro h
    refine migrate_eq_self (Bool.eq_false_iff.2 fun hholds => ?_)
    obtain ⟨word, hword, hinfix⟩ := holdsFormerName_iff.1 hholds
    exact h word hword hinfix

/-- **A second migration changes nothing.** -/
theorem migrate_migrate (t : Text) : migrate (migrate t) = migrate t :=
  migrate_eq_self (holdsFormerName_migrate t)

/-! ### Migrating lines -/

@[simp] theorem migrate_nil : migrate [] = [] := rfl

theorem migrate_eq_nil_iff : migrate t = [] ↔ t = [] := by
  cases t with
  | nil => exact ⟨fun _ => rfl, fun _ => rfl⟩
  | cons c t =>
    have hcons : migrate (c :: t) ≠ [] := by
      rw [migrate, migrateAfter]
      split
      · exact List.append_ne_nil_of_left_ne_nil (by decide) _
      · exact List.cons_ne_nil _ _
    simp [hcons]

/-- What ends a migrated text ended it before, unless the name of the script does. -/
theorem getLast?_of_migrateAfter {c : Char} (hc : c ∉ scriptName) {skip : Nat}
    (h : (migrateAfter skip t).getLast? = some c) : t.getLast? = some c := by
  induction t generalizing skip with
  | nil => cases skip <;> simp [migrateAfter] at h
  | cons a t ih =>
    have hrest {skip : Nat} (h : (migrateAfter skip t).getLast? = some c) :
        (a :: t).getLast? = some c := by
      rw [List.getLast?_cons, ih h, Option.getD_some]
    cases skip with
    | succ skip => exact hrest h
    | zero =>
      by_cases ha : beginsWith formerName (a :: t) = true
      · rw [migrateAfter, if_pos ha, List.getLast?_append, Option.or_eq_some_iff] at h
        rcases h with h | ⟨-, h⟩
        · exact hrest h
        · exact absurd (List.mem_of_getLast? h) hc
      · rw [migrateAfter, if_neg ha] at h
        by_cases ht : t = []
        · simpa [ht, migrateAfter] using h
        · have hne : migrateAfter 0 t ≠ [] := fun hnil => ht (migrate_eq_nil_iff.1 hnil)
          rw [List.getLast?_cons_of_ne_nil hne] at h
          exact hrest h

/-- A carriage return stays at the end of a line that is migrated. -/
theorem dropReturn_migrate (l : Text) :
    Text.dropReturn (migrate l) = migrate (Text.dropReturn l) := by
  have hmigrate :
      migrate (Text.dropReturn l ++ ['\x0d']) = migrate (Text.dropReturn l) ++ ['\x0d'] :=
    migrate_append_cons (by decide)
  rcases Text.dropReturn_cases l with h | h
  · conv => lhs; rw [h, hmigrate]
    exact Text.dropReturn_concat _
  · rw [h]
    rcases Text.dropReturn_cases (migrate l) with hm | hm
    · -- a carriage return at the end would have been there before
      have hlast : (migrateAfter 0 l).getLast? = some '\x0d' := by
        show (migrate l).getLast? = some '\x0d'
        rw [hm, List.getLast?_concat]
      obtain ⟨init, rfl⟩ := List.getLast?_eq_some_iff.1 (getLast?_of_migrateAfter (by decide) hlast)
      rw [Text.dropReturn_concat] at h
      simp at h
    · exact hm

/-- Lines can be migrated before they are told from the ends of lines. -/
theorem linesOfPieces_map_migrate (ps : List Text) :
    Text.linesOfPieces (ps.map migrate) = (Text.linesOfPieces ps).map migrate := by
  induction ps with
  | nil => rfl
  | cons p ps ih =>
    cases ps with
    | nil =>
      by_cases hp : p = []
      · simp [Text.linesOfPieces, hp]
      · have hp' : migrate p ≠ [] := fun h => hp (migrate_eq_nil_iff.1 h)
        simp [Text.linesOfPieces, hp, hp']
    | cons q ps =>
      have hcons : Text.linesOfPieces ((p :: q :: ps).map migrate) =
          Text.dropReturn (migrate p) :: Text.linesOfPieces ((q :: ps).map migrate) := rfl
      rw [hcons, ih, dropReturn_migrate]
      rfl

end Bootstrap

/-! ### Commands -/

namespace Command

/-- The former name is not in a copy of a command that does not hold it. -/
theorem holdsFormerName_body_clone {c : Command} (h : Bootstrap.holdsFormerName c.body = false) :
    Bootstrap.holdsFormerName c.clone.body = false :=
  Bootstrap.holdsFormerName_of_infix (body_infix_of_parse (parse_text c)) (holdsFormerName_text h)

end Command

/-! ### Recipes -/

namespace Recipe

variable {kind : RecipeKind} {id text : Text} {r : Recipe}

/-- The text with the former name of the script replaced in the lines from the third on. -/
def migrateBody (text : Text) : Text :=
  Text.joinLines
    ((text.splitOn '\n').take 2 ++ ((text.splitOn '\n').drop 2).map Bootstrap.migrate)

theorem splitOn_migrateBody (text : Text) : (migrateBody text).splitOn '\n' =
    (text.splitOn '\n').take 2 ++ ((text.splitOn '\n').drop 2).map Bootstrap.migrate := by
  have hpieces : ∀ l ∈ text.splitOn '\n', '\n' ∉ l := fun l hl =>
    Text.newline_notMem_of_mem_splitOn hl
  rw [migrateBody, Text.splitOn_joinLines, Text.flatMap_splitOn_of_notMem]
  · intro l hl
    rcases List.mem_append.1 hl with hl | hl
    · exact hpieces l (List.mem_of_mem_take hl)
    · obtain ⟨raw, hraw, rfl⟩ := List.mem_map.1 hl
      exact Bootstrap.newline_notMem_migrate (hpieces raw (List.mem_of_mem_drop hraw))
  · obtain ⟨p, ps, hcons⟩ := List.exists_cons_of_ne_nil (List.splitOn_ne_nil '\n' text)
    simp [hcons]

/-- **The lines of the migrated text.**  The first two stay as they are. -/
theorem lines_migrateBody (text : Text) : Text.lines (migrateBody text) =
    (Text.lines text).take 2 ++ ((Text.lines text).drop 2).map Bootstrap.migrate := by
  rw [Text.lines, Text.lines, splitOn_migrateBody, Text.drop_linesOfPieces,
    ← Bootstrap.linesOfPieces_map_migrate]
  rcases text.splitOn '\n' with _ | ⟨p, _ | ⟨q, _ | ⟨r, ps⟩⟩⟩
  · rfl
  · by_cases hp : p = [] <;> simp [Text.linesOfPieces, hp]
  · by_cases hq : q = [] <;> simp [Text.linesOfPieces, hq]
  · rfl

theorem migrateBody_eq_nil_iff : migrateBody text = [] ↔ text = [] := by
  have hnil {t : Text} : Text.lines t = [] ↔ t = [] := Text.lines_eq_nil_iff
  rw [← hnil, lines_migrateBody, ← hnil]
  cases Text.lines text <;> simp

theorem headerLine_migrateBody (text : Text) : headerLine (migrateBody text) = headerLine text := by
  rw [headerLine, headerLine, lines_migrateBody]
  cases Text.lines text <;> rfl

/-- The lines from the third on are migrated already. -/
theorem migratedLines_migrateBody (text : Text) :
    migratedLines (migrateBody text) = migratedLines text := by
  have hbody : bodyLines (migrateBody text) = (bodyLines text).map Bootstrap.migrate := by
    rw [bodyLines, bodyLines, lines_migrateBody]
    rcases Text.lines text with _ | ⟨p, _ | ⟨q, ls⟩⟩
    · rfl
    · rfl
    · rfl
  rw [migratedLines, hbody, migratedLines, List.map_map]
  exact List.map_congr_left fun l _ => Bootstrap.migrate_migrate l

/-- The former name is in no command of a recipe that was read. -/
theorem holdsFormerName_body_of_parse {source : Option Text} (h : parse kind id source = .ok r) :
    ∀ c ∈ r.commands, Bootstrap.holdsFormerName c.body = false := by
  intro c hc
  obtain ⟨line, -, hline⟩ := isRead_of_parse h c hc
  exact Bootstrap.holdsFormerName_of_infix (Command.body_infix_of_parse hline)
    (Bootstrap.holdsFormerName_migrate line)

/-- Nor is it in a command of a copy, of a copy of a copy, and so on. -/
theorem holdsFormerName_body_iterate_clone (n : Nat)
    (h : ∀ c ∈ r.commands, Bootstrap.holdsFormerName c.body = false) :
    ∀ c ∈ (clone^[n] r).commands, Bootstrap.holdsFormerName c.body = false := by
  induction n with
  | zero => exact h
  | succ n ih =>
    rw [Function.iterate_succ_apply']
    intro c hc
    obtain ⟨d, hd, rfl⟩ := List.mem_map.1 hc
    exact Command.holdsFormerName_body_clone (ih d hd)

/-- **Migrating a text.**  A migrated line has no occurrence of the former name, and migrating it
again changes nothing.  A text is read as the text that is migrated from its third line on: both are
refused for the same reason, or both hold the same recipe, each with its text.  The former name
occurs in no command of the recipe, however often it is copied. -/
theorem parse_migrateBody (kind : RecipeKind) (id id' text : Text) :
    (∀ line, Bootstrap.migrate (Bootstrap.migrate line) = Bootstrap.migrate line ∧
      ∀ word, Bootstrap.IsFormerName word → ¬ word <:+: Bootstrap.migrate line) ∧
    parse kind id' (some (migrateBody text)) =
      (parse kind id (some text)).map (fun r =>
        { r with id := id', source := r.source.map migrateBody }) ∧
    ∀ r, parse kind id (some text) = .ok r → ∀ n, ∀ c ∈ (clone^[n] r).commands,
      ∀ word, Bootstrap.IsFormerName word → ¬ word <:+: c.body := by
  refine ⟨fun line => ⟨Bootstrap.migrate_migrate line, fun word hword => ?_⟩, ?_, ?_⟩
  · exact Bootstrap.not_infix_of_isFormerName (Bootstrap.holdsFormerName_migrate line) hword
  · have hread := parse_congr migrateBody_eq_nil_iff (headerLine_migrateBody text)
      (migratedLines_migrateBody text) kind id
    rw [parse_withId kind id id' (some (migrateBody text)), hread]
    cases parse kind id (some text) <;> rfl
  · intro r hread n c hc word hword
    have hcommands := holdsFormerName_body_iterate_clone n (holdsFormerName_body_of_parse hread)
    exact Bootstrap.not_infix_of_isFormerName (hcommands c hc) hword

/-- A text with the former name in several spellings, also in its second line. -/
def spellingsText : Text :=
  "ADD [\"./a\", \"/x\"]\nWORKDIR /translation_rules.sh\nADD ./Translation_Ruleſ.sh x\x0d\n".toList ++
    "RUN bash TRANSLATION_RULES.SH\nRUN sh translation_translation_rules.sh.sh # runnable-cache".toList

/-- The recipe in this text. -/
def spellings : Recipe where
  id := []
  name := "a".toList
  path := "x".toList
  commands := [⟨some .run, "sh translation_find_and_replace.sh.sh".toList, true⟩]
  hasBootstrap := true
  legacyAdd := false
  fromText := true
  source := some spellingsText

/-- The migrated text holds the same recipe, and its commands are free of the former name. -/
theorem parse_migrateBody_spellings :
    parse .file [] (some spellingsText) = .ok spellings ∧
    parse .file [] (some (migrateBody spellingsText)) =
      .ok { spellings with source := some (migrateBody spellingsText) } ∧
    ∀ c ∈ (clone^[2] spellings).commands, ¬ "translation_ruleſ.SH".toList <:+: c.body := by
  have hread : parse .file [] (some spellingsText) = .ok spellings := by decide +kernel
  have hword : Bootstrap.IsFormerName "translation_ruleſ.SH".toList := by
    unfold Bootstrap.IsFormerName
    decide
  obtain ⟨-, hmigrated, hcommands⟩ := parse_migrateBody .file [] [] spellingsText
  rw [hread] at hmigrated
  exact ⟨hread, hmigrated, fun c hc => hcommands spellings hread 2 c hc _ hword⟩

end Recipe

end BuildCards
