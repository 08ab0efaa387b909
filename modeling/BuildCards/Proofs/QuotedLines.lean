import BuildCards.Proofs.Grammar
import BuildCards.Proofs.LineEndings
import BuildCards.Proofs.Migration
import BuildCards.Text.FirstWord

/-!
# The line that a fault quotes

A recipe is refused for a line that holds no command: it is not blank, and its first word is no
keyword (`Command.IsUnread`).  The fault quotes the first of these lines (`Recipe.FirstUnread`), but
not always as it stands in the text:

* the former name of the script has been replaced in it;
* if the recipe stands in a block of a document, two carriage returns at the end of the line have
  been lost, and not one, unless the line is the last of its block.

**Main theorem** (`Document.quotes_of_parse`): which line is quoted, and when it is quoted as it is.
-/

namespace BuildCards

/-! ### Lines that hold no command -/

namespace Bootstrap

variable {t u : Text}

/-- No blank can be a part of the former name. -/
theorem foreign_of_isBlank {c : Char} (hc : Text.isBlank c = true) : Foreign c := by
  have hblanks : Text.blanks.all (fun c => formerName.all (!sameLetter · c)) = true := by decide
  intro l hl
  have hall := List.all_eq_true.1 hblanks c (Text.isBlank_iff.1 hc)
  simpa using List.all_eq_true.1 hall l hl

theorem migrate_append_of_isBlank (hu : Text.IsBlank u) (t : Text) :
    migrate (u ++ t) = u ++ migrate t := by
  induction u with
  | nil => rfl
  | cons c u ih =>
    obtain ⟨hc, hu⟩ := List.forall_mem_cons.1 hu
    have hcons : migrate (c :: (u ++ t)) = c :: migrate (u ++ t) :=
      migrate_append_cons (u := []) (foreign_of_isBlank hc)
    rw [List.cons_append, hcons, ih hu, List.cons_append]

/-- What stands on both sides of a blank is migrated on its own. -/
theorem migrate_append_of_opensBlank (ht : Text.opensBlank t = true) :
    migrate (u ++ t) = migrate u ++ migrate t ∧ Text.opensBlank (migrate t) = true := by
  cases t with
  | nil => exact ⟨by simp, rfl⟩
  | cons c t =>
    have hc : Text.isBlank c = true := ht
    have hcons : migrate (c :: t) = c :: migrate t :=
      migrate_append_cons (u := []) (foreign_of_isBlank hc)
    rw [hcons]
    exact ⟨migrate_append_cons (foreign_of_isBlank hc), hc⟩

theorem scriptName_infix_migrate (h : holdsFormerName t = true) : scriptName <:+: migrate t := by
  induction t with
  | nil => simp [holdsFormerName] at h
  | cons a t ih =>
    by_cases ha : beginsWith formerName (a :: t) = true
    · rw [migrate, migrateAfter, if_pos ha]
      exact (List.prefix_append _ _).isInfix
    · rw [holdsFormerName, Bool.or_eq_true, or_iff_right ha] at h
      rw [migrate, migrateAfter, if_neg ha]
      exact List.infix_cons (ih h)

theorem isBlank_of_mem_migrate (h : ∀ c ∈ t, Text.isBlank c = false) :
    ∀ c ∈ migrate t, Text.isBlank c = false := by
  have hscript : scriptName.all (!Text.isBlank ·) = true := by decide
  intro c hc
  rcases mem_of_mem_migrateAfter hc with hc | hc
  · exact h c hc
  · simpa using List.all_eq_true.1 hscript c hc

/-- **The first word of a migrated line** is the first word of the line, migrated. -/
theorem head?_words_migrate (line : Text) :
    (Text.words (migrate line)).head? = (Text.words line).head?.map migrate := by
  by_cases hline : Text.IsBlank line
  · have hmigrate : migrate line = line := by simpa using migrate_append_of_isBlank hline []
    rw [hmigrate, Text.words_of_isBlank hline]
    rfl
  · obtain ⟨word, rest, hbegins⟩ := Text.exists_begins hline
    obtain ⟨before, behind, hbefore, hbehind, hparts⟩ := hbegins.exists_parts
    obtain ⟨happ, hbehind'⟩ := migrate_append_of_opensBlank (u := word) hbehind
    have hmigrate : migrate line = before ++ (migrate word ++ migrate behind) := by
      rw [hparts, migrate_append_of_isBlank hbefore, happ]
    have hne : migrate word ≠ [] := fun h => hbegins.ne_nil (migrate_eq_nil_iff.1 h)
    rw [hbegins.head?_words, hmigrate]
    exact Text.head?_words_of_parts hbefore hne (isBlank_of_mem_migrate hbegins.solid) hbehind'

/-- A keyword is too short to hold one of the names. -/
theorem ofKeyword?_migrate (word : Text) :
    Instruction.ofKeyword? (migrate word) = Instruction.ofKeyword? word := by
  have hlong {t : Text} (ht : 10 < t.length) : Instruction.ofKeyword? t = none := by
    cases hi : Instruction.ofKeyword? t with
    | none => rfl
    | some i =>
      have hlen := congrArg List.length (Instruction.ofKeyword?_eq_some_iff.1 hi)
      have hkeyword : i.keyword.length ≤ 10 := by cases i <;> decide
      rw [List.length_map] at hlen
      omega
  by_cases h : holdsFormerName word = true
  · obtain ⟨name, hname, hinfix⟩ := holdsFormerName_iff.1 h
    have hformer : formerName.length = 20 := by decide
    have hscript : scriptName.length = 19 := by decide
    have hword : name.length ≤ word.length := hinfix.length_le
    have hmigrated : scriptName.length ≤ (migrate word).length :=
      (scriptName_infix_migrate h).length_le
    have hsame : formerName.length = name.length := hname.length_eq
    rw [hlong (by omega), hlong (by omega)]
  · rw [migrate_eq_self (by simpa using h)]

end Bootstrap

namespace Command

variable {line : Text}

/-- The line is not blank, and its first word is no keyword. -/
def IsUnread (line : Text) : Prop :=
  ∃ word ∈ (Text.words line).head?, Instruction.ofKeyword? word = none

theorem not_isBlank_of_isUnread (h : IsUnread line) : ¬ Text.IsBlank line := by
  intro hblank
  obtain ⟨word, hword, -⟩ := h
  simp [Text.words_of_isBlank hblank] at hword

/-- The line holds no command exactly if it is not read. -/
theorem isUnread_iff : IsUnread line ↔ parse line = .error (.instruction line) := by
  by_cases hline : Text.IsBlank line
  · rw [parse_of_isBlank hline]
    exact ⟨fun h => absurd hline (not_isBlank_of_isUnread h), fun h => by simp at h⟩
  · obtain ⟨word, rest, hbegins⟩ := Text.exists_begins hline
    rw [IsUnread, hbegins.head?_words]
    cases hi : Instruction.ofKeyword? word with
    | none => simp [hi, parse_of_no_keyword hbegins hi]
    | some i => simp [hi, parse_of_keyword hbegins hi]

theorem exists_parse_of_not_isUnread (h : ¬ IsUnread line) : ∃ c, parse line = .ok c := by
  cases hparse : parse line with
  | ok c => exact ⟨c, rfl⟩
  | error fault =>
    rw [eq_instruction_of_parse hparse] at hparse
    exact absurd (isUnread_iff.2 hparse) h

/-- A carriage return at the end makes no difference. -/
theorem isUnread_dropReturn : IsUnread (Text.dropReturn line) ↔ IsUnread line := by
  have hwords : Text.words (Text.dropReturn line) = Text.words line := by
    rcases Text.dropReturn_cases line with h | h
    · conv => rhs; rw [h]
      rw [Text.words_append_return rfl, List.append_nil]
    · rw [h]
  rw [IsUnread, IsUnread, hwords]

/-- Nor does the former name of the script. -/
theorem isUnread_migrate : IsUnread (Bootstrap.migrate line) ↔ IsUnread line := by
  rw [IsUnread, IsUnread, Bootstrap.head?_words_migrate]
  cases (Text.words line).head? <;> simp [Bootstrap.ofKeyword?_migrate]

end Command

/-! ### The first of them -/

namespace Recipe

variable {ls : List Text} {line : Text} {after : List Text}

/-- Of the lines, this one is the first that holds no command; the others come after it. -/
inductive FirstUnread : List Text → Text → List Text → Prop
  /-- It is the first of all lines. -/
  | here {line : Text} {after : List Text} (hline : Command.IsUnread line) :
      FirstUnread (line :: after) line after
  /-- The first of all lines is blank or holds a command. -/
  | later {l : Text} {ls : List Text} {line : Text} {after : List Text}
      (hl : ¬ Command.IsUnread l) (hls : FirstUnread ls line after) :
      FirstUnread (l :: ls) line after

theorem FirstUnread.isUnread (h : FirstUnread ls line after) : Command.IsUnread line := by
  induction h with
  | here hline => exact hline
  | later _ _ ih => exact ih

theorem FirstUnread.mem (h : FirstUnread ls line after) : line ∈ ls := by
  induction h with
  | here _ => exact List.mem_cons_self
  | later _ _ ih => exact List.mem_cons_of_mem _ ih

theorem FirstUnread.unique {line' : Text} {after' : List Text} (h : FirstUnread ls line after)
    (h' : FirstUnread ls line' after') : line = line' ∧ after = after' := by
  induction h with
  | here hline =>
    cases h' with
    | here _ => exact ⟨rfl, rfl⟩
    | later hl _ => exact absurd hline hl
  | later hl _ ih =>
    cases h' with
    | here hline => exact absurd hline hl
    | later _ hls => exact ih hls

theorem exists_firstUnread (h : ∃ l ∈ ls, Command.IsUnread l) :
    ∃ line after, FirstUnread ls line after := by
  induction ls with
  | nil => simp at h
  | cons l ls ih =>
    by_cases hl : Command.IsUnread l
    · exact ⟨l, ls, .here hl⟩
    · have hls : ∃ m ∈ ls, Command.IsUnread m := by simpa [hl] using h
      obtain ⟨line, after, hfirst⟩ := ih hls
      exact ⟨line, after, .later hl hfirst⟩

/-- **Why lines are refused.**  The fault quotes the first line that holds no command, migrated. -/
theorem mapM_parse_eq_error_iff {fault : Fault} :
    ((ls.map Bootstrap.migrate).filter fun line => ¬ Text.IsBlank line).mapM Command.parse =
        .error fault ↔
      ∃ line after, FirstUnread ls line after ∧ fault = .instruction (Bootstrap.migrate line) := by
  induction ls with
  | nil =>
    constructor
    · intro h
      simp [pure, Except.pure] at h
    · rintro ⟨line, after, hfirst, -⟩
      cases hfirst
  | cons l ls ih =>
    rw [List.map_cons]
    by_cases hl : Command.IsUnread l
    · have hmigrate : Command.IsUnread (Bootstrap.migrate l) := Command.isUnread_migrate.2 hl
      have hblank := Command.not_isBlank_of_isUnread hmigrate
      rw [List.filter_cons_of_pos (by simpa using hblank), List.mapM_cons,
        Command.isUnread_iff.1 hmigrate]
      constructor
      · intro h
        exact ⟨l, ls, .here hl, (Except.error.inj h).symm⟩
      · rintro ⟨line, after, hfirst, rfl⟩
        cases hfirst with
        | here _ => rfl
        | later hl' _ => exact absurd hl hl'
    · -- the first line is blank or holds a command, so the fault is one of the others
      have hskip : (((Bootstrap.migrate l :: ls.map Bootstrap.migrate).filter
          fun line => ¬ Text.IsBlank line).mapM Command.parse = .error fault) ↔
          ((ls.map Bootstrap.migrate).filter fun line => ¬ Text.IsBlank line).mapM Command.parse =
            .error fault := by
        by_cases hblank : Text.IsBlank (Bootstrap.migrate l)
        · rw [List.filter_cons_of_neg (by simpa using hblank)]
        · obtain ⟨c, hc⟩ := Command.exists_parse_of_not_isUnread
            fun h => hl (Command.isUnread_migrate.1 h)
          rw [List.filter_cons_of_pos (by simpa using hblank), List.mapM_cons, hc]
          generalize ((ls.map Bootstrap.migrate).filter _).mapM Command.parse = rest
          cases rest <;> simp [bind, Except.bind, pure, Except.pure]
      rw [hskip, ih]
      constructor
      · rintro ⟨line, after, hfirst, rfl⟩
        exact ⟨line, after, .later hl hfirst, rfl⟩
      · rintro ⟨line, after, hfirst, rfl⟩
        cases hfirst with
        | here hline => exact absurd hline hl
        | later _ hls => exact ⟨line, after, hls, rfl⟩

/-! ### Recipes -/

/-- The lines, which come after the first two, without those that are taken for the bootstrap
script. -/
def keptLines (ls : List Text) : List Text :=
  if Bootstrap.opens (ls.map Bootstrap.migrate) then ls.drop 2 else ls

theorem ownLines_map_migrate (ls : List Text) : ownLines (ls.map Bootstrap.migrate) =
    ((keptLines ls).map Bootstrap.migrate).filter fun line => ¬ Text.IsBlank line := by
  rw [ownLines, keptLines]
  split
  · rw [List.map_drop]
  · rfl

/-- **Why a text is refused for a line.**  It has a header, and a line below the first two holds no
command. -/
theorem parseText_eq_instruction_iff {kind : RecipeKind} {id text quoted : Text} :
    parseText kind id text = .error (.instruction quoted) ↔
      (∃ header, AddHeader.parse (headerLine text) = .ok header) ∧
        ∃ line after, FirstUnread (keptLines (bodyLines text)) line after ∧
          quoted = Bootstrap.migrate line := by
  have hlines : (commandLines text).mapM Command.parse = .error (.instruction quoted) ↔
      ∃ line after, FirstUnread (keptLines (bodyLines text)) line after ∧
        quoted = Bootstrap.migrate line := by
    rw [commandLines, migratedLines, ownLines_map_migrate, mapM_parse_eq_error_iff]
    simp only [Fault.instruction.injEq]
  rw [parseText_eq_error_iff, hlines]
  cases hheader : AddHeader.parse (headerLine text) with
  | ok header => simp
  | error fault => simp [AddHeader.eq_addLine_of_parse hheader]

theorem parseText_of_parse {kind : RecipeKind} {id : Text} {source : Option Text} {fault : Fault}
    (h : parse kind id source = .error fault) :
    ∃ text, source = some text ∧ text ≠ [] ∧ parseText kind id text = .error fault := by
  cases source with
  | none => simp [parse] at h
  | some text =>
    cases text with
    | nil => simp [parse] at h
    | cons c text => exact ⟨_, rfl, List.cons_ne_nil _ _, h⟩

/-! ### Blocks -/

theorem FirstUnread.linesOfPieces (h : FirstUnread ls line after) :
    FirstUnread (Text.linesOfPieces ls) (if after = [] then line else Text.dropReturn line)
      (Text.linesOfPieces after) := by
  induction h with
  | @here line after hline =>
    -- only the last of the pieces keeps its carriage return
    cases after with
    | nil =>
      have hne : line ≠ [] := by
        rintro rfl
        exact Command.not_isBlank_of_isUnread hline (by decide)
      simpa [Text.linesOfPieces, hne] using FirstUnread.here hline
    | cons m after => exact .here (Command.isUnread_dropReturn.2 hline)
  | @later l ls line after hl hls ih =>
    cases ls with
    | nil => cases hls
    | cons m ls => exact .later (fun h => hl (Command.isUnread_dropReturn.1 h)) ih

theorem exists_isUnread_of_linesOfPieces (h : ∃ l ∈ Text.linesOfPieces ls, Command.IsUnread l) :
    ∃ l ∈ ls, Command.IsUnread l := by
  obtain ⟨l, hl, hunread⟩ := h
  induction ls with
  | nil => simp [Text.linesOfPieces] at hl
  | cons p ls ih =>
    cases ls with
    | nil =>
      by_cases hp : p = []
      · simp [Text.linesOfPieces, hp] at hl
      · obtain rfl : l = p := by simpa [Text.linesOfPieces, hp] using hl
        exact ⟨l, List.mem_cons_self, hunread⟩
    | cons q ls =>
      rcases List.mem_cons.1 hl with rfl | hl
      · exact ⟨p, List.mem_cons_self, Command.isUnread_dropReturn.1 hunread⟩
      · obtain ⟨m, hm, hmunread⟩ := ih hl
        exact ⟨m, List.mem_cons_of_mem _ hm, hmunread⟩

/-- The first line without a command is found among the pieces of the text; a carriage return at
its end is lost unless it is the last one. -/
theorem exists_firstUnread_of_linesOfPieces {l : Text} {rest : List Text}
    (h : FirstUnread (Text.linesOfPieces ls) l rest) : ∃ line after, FirstUnread ls line after ∧
      l = if after = [] then line else Text.dropReturn line := by
  obtain ⟨line, after, hfirst⟩ :=
    exists_firstUnread (exists_isUnread_of_linesOfPieces ⟨l, h.mem, h.isUnread⟩)
  exact ⟨line, after, hfirst, (h.unique hfirst.linesOfPieces).1⟩

theorem keptLines_linesOfPieces (ls : List Text) :
    keptLines (Text.linesOfPieces ls) = Text.linesOfPieces (keptLines ls) := by
  rw [keptLines, keptLines, opens_linesOfPieces]
  split
  · exact Text.drop_linesOfPieces 2 ls
  · rfl

theorem mem_of_mem_keptLines (h : line ∈ keptLines ls) : line ∈ ls := by
  rw [keptLines] at h
  split at h
  · exact List.mem_of_mem_drop h
  · exact h

/-! ### What is quoted -/

/-- A line that is read without its last carriage return, if it has one, is quoted as it is exactly
if it has none and the former name does not occur in it. -/
theorem migrate_eq_iff {l : Text} (hl : l = line ∨ l = Text.dropReturn line) :
    Bootstrap.migrate l = line ↔
      (∀ word, Bootstrap.IsFormerName word → ¬ word <:+: line) ∧ l = line := by
  constructor
  · intro h
    -- the line is what a migration gave, so another one leaves it alone
    have hline : Bootstrap.migrate line = line := by rw [← h, Bootstrap.migrate_migrate]
    have hclean := Bootstrap.migrate_eq_self_iff.1 hline
    have hinfix : l <:+: line := by
      rcases hl with rfl | rfl
      · exact List.infix_refl _
      · exact Text.dropReturn_isInfix line
    have hself : Bootstrap.migrate l = l :=
      Bootstrap.migrate_eq_self_iff.2 fun word hword hl => hclean word hword (hl.trans hinfix)
    exact ⟨hclean, hself.symm.trans h⟩
  · rintro ⟨hclean, rfl⟩
    exact Bootstrap.migrate_eq_self_iff.2 hclean

/-- What the fault of a recipe quotes. -/
theorem exists_firstUnread_of_parse {kind : RecipeKind} {id text quoted : Text}
    (h : parse kind id (some text) = .error (.instruction quoted)) :
    ∃ line after, FirstUnread (keptLines (bodyLines text)) line after ∧
      quoted = Bootstrap.migrate line ∧
      (quoted = line ↔ ∀ word, Bootstrap.IsFormerName word → ¬ word <:+: line) := by
  obtain ⟨_, htext, -, hparse⟩ := parseText_of_parse h
  obtain rfl := Option.some.inj htext
  obtain ⟨-, line, after, hfirst, rfl⟩ := parseText_eq_instruction_iff.1 hparse
  exact ⟨line, after, hfirst, rfl, Bootstrap.migrate_eq_self_iff⟩

/-- What the fault of a recipe in a block quotes of the lines of the document. -/
theorem exists_firstUnread_of_joinLines {kind : RecipeKind} {id quoted : Text} {body : List Text}
    (hbody : ∀ l ∈ body, '\n' ∉ l)
    (h : parse kind id (some (Text.joinLines body)) = .error (.instruction quoted)) :
    ∃ line after, FirstUnread (keptLines (body.drop 2)) line after ∧
      quoted = Bootstrap.migrate (if after = [] then line else Text.dropReturn line) ∧
      (quoted = line ↔ (∀ word, Bootstrap.IsFormerName word → ¬ word <:+: line) ∧
        (after = [] ∨ Text.dropReturn line = line)) := by
  have hlines : bodyLines (Text.joinLines body) = Text.linesOfPieces (body.drop 2) := by
    cases body with
    | nil => rfl
    | cons header rest => exact bodyLines_joinLines hbody
  obtain ⟨l, rest, hfirst, rfl, -⟩ := exists_firstUnread_of_parse h
  rw [hlines, keptLines_linesOfPieces] at hfirst
  obtain ⟨line, after, hline, rfl⟩ := exists_firstUnread_of_linesOfPieces hfirst
  refine ⟨line, after, hline, rfl, ?_⟩
  rw [migrate_eq_iff (by split <;> simp)]
  split
  next hafter => simp [hafter]
  next hafter => simp [hafter]

end Recipe

theorem Card.exists_recipe_of_parse {kind : Kind} {id : Text} {source : Option Text} {fault : Fault}
    (h : parse kind id source = .error fault) :
    ∃ k, kind = .recipe k ∧ Recipe.parse k id source = .error fault := by
  cases kind with
  | packages => simp [parse] at h
  | recipe k =>
    refine ⟨k, rfl, ?_⟩
    cases hrecipe : Recipe.parse k id source with
    | ok r => simp [parse, hrecipe, Except.map] at h
    | error fault' => simpa [parse, hrecipe, Except.map] using h

theorem Block.eq_joinLines_of_source {b : Block} {text : Text} (h : b.source = some text) :
    text = Text.joinLines b.body := by
  rw [Block.source] at h
  split at h
  · simp at h
  · exact (Option.some.inj h).symm

namespace Document

/-- **The line that a fault quotes.**  If a recipe is refused for a line, the fault quotes the first
line below the first two that holds no command, apart from those that are taken for the bootstrap
script, with the former name of the script replaced; it is the line as it stands in the text exactly
if the former name does not occur in it.  If a document is refused for a line, the line belongs to
the first block that is refused, and what is quoted has also lost a carriage return, unless the line
has none or is the last of the block. -/
theorem quotes_of_parse (text quoted : Text) :
    (∀ kind id, Recipe.parse kind id (some text) = .error (.instruction quoted) →
      ∃ line after, Recipe.FirstUnread (Recipe.keptLines (Recipe.bodyLines text)) line after ∧
        quoted = Bootstrap.migrate line ∧
        (quoted = line ↔ ∀ word, Bootstrap.IsFormerName word → ¬ word <:+: line)) ∧
    ∀ ids, (parse text ids).result = .error (.instruction quoted) →
      ∃ before kind start body stop rest, Text.lines text = before ++ stop :: rest ∧
        Open before (.recipe kind) start body ∧ Block.Stops stop ∧
        ∃ line after, Recipe.FirstUnread (Recipe.keptLines (body.drop 2)) line after ∧
          quoted = Bootstrap.migrate (if after = [] then line else Text.dropReturn line) ∧
          (quoted = line ↔ (∀ word, Bootstrap.IsFormerName word → ¬ word <:+: line) ∧
            (after = [] ∨ Text.dropReturn line = line)) := by
  refine ⟨fun kind id h => Recipe.exists_firstUnread_of_parse h, ?_⟩
  intro ids h
  rcases parse_eq_error_iff.1 h with ⟨before, stop, rest, hlines, hoffends⟩ | ⟨_, _, _, _, hfault⟩
  · cases hoffends with
    | @card kind start body _ hopen hstop hrejected =>
      obtain ⟨id, hparse⟩ := hrejected
      obtain ⟨k, rfl, hrecipe⟩ := Card.exists_recipe_of_parse hparse
      obtain ⟨_, hsource, -, -⟩ := Recipe.parseText_of_parse hrecipe
      obtain rfl := Block.eq_joinLines_of_source hsource
      have hbody : ∀ l ∈ body, '\n' ∉ l := by
        obtain ⟨closed, first, _, rfl, -⟩ := hopen
        intro l hl
        exact Text.newline_notMem_of_mem_lines (t := text) (by simp [hlines, hl])
      rw [hsource] at hrecipe
      exact ⟨before, k, start, body, stop, rest, hlines, hopen, hstop,
        Recipe.exists_firstUnread_of_joinLines hbody hrecipe⟩
  · simp at hfault

/-- A text whose fifth line holds no command but the former name of the script. -/
def formerLineText : Text :=
  "ADD [\"./a\", \"/x\"]\nWORKDIR /x\n\nRUN make\nHello translation_rules.sh\nRUN true".toList

/-- A document whose fourth line holds no command and ends in two carriage returns. -/
def returnsDocument : Text :=
  "#Start: File\nADD ./a /x\nWORKDIR /x\nHello there\x0d\x0d\nRUN true\n#End".toList

/-- In both, what is quoted is no line of the text. -/
theorem quotes_of_parse_changed :
    (Recipe.parse .file [] (some formerLineText) =
        .error (.instruction "Hello find_and_replace.sh".toList) ∧
      ∃ line ∈ Text.lines formerLineText, Command.IsUnread line ∧
        "Hello find_and_replace.sh".toList = Bootstrap.migrate line ∧
        "Hello find_and_replace.sh".toList ≠ line) ∧
    (parse returnsDocument .sequential).result = .error (.instruction "Hello there".toList) ∧
      ∃ line ∈ Text.lines returnsDocument, Command.IsUnread line ∧
        "Hello there".toList ≠ line := by
  have hrecipe : Recipe.parse .file [] (some formerLineText) =
      .error (.instruction "Hello find_and_replace.sh".toList) := by decide +kernel
  have hdocument : (parse returnsDocument .sequential).result =
      .error (.instruction "Hello there".toList) := by decide +kernel
  refine ⟨⟨hrecipe, ?_⟩, hdocument, ?_⟩
  · obtain ⟨line, after, hfirst, hquoted, -⟩ := (quotes_of_parse _ _).1 _ _ hrecipe
    have hmem : line ∈ Text.lines formerLineText :=
      List.mem_of_mem_drop (Recipe.mem_of_mem_keptLines hfirst.mem)
    have hnone : "Hello find_and_replace.sh".toList ∉ Text.lines formerLineText := by
      decide +kernel
    exact ⟨line, hmem, hfirst.isUnread, hquoted, fun h => hnone (h ▸ hmem)⟩
  · obtain ⟨before, _, _, body, stop, rest, hlines, hopen, -, line, after, hfirst, -⟩ :=
      (quotes_of_parse _ _).2 _ hdocument
    obtain ⟨closed, first, _, rfl, -⟩ := hopen
    have hbody : line ∈ body := List.mem_of_mem_drop (Recipe.mem_of_mem_keptLines hfirst.mem)
    have hmem : line ∈ Text.lines returnsDocument := by simp [hlines, hbody]
    have hnone : "Hello there".toList ∉ Text.lines returnsDocument := by decide +kernel
    exact ⟨line, hmem, hfirst.isUnread, fun h => hnone (h ▸ hmem)⟩

end Document

end BuildCards
