import BuildCards.Proofs.FormerName
import BuildCards.Recipe
import Mathlib.Data.List.Forall2

/-!
# Recipes as lines

A recipe is read line by line.  Here what it reads as is related to the lines of its text.

* `Recipe.HoldsCommands`: what the lines after the first two say.  It depends on nothing but what
  the lines hold between their blanks (`Recipe.holdsCommands_congr`), so the carriage returns that
  are lost on the way through a document have no part in it.
* `Recipe.parseText_eq_ok_iff`: what a text reads as, by its header and its other lines.
* `Recipe.parse_joinLines_iff`: what a text with a header in the present form reads as.
* `Recipe.IsRead`: what is known of the commands of a recipe that was read from a text.
-/

namespace BuildCards

theorem mapM_eq_ok_iff {α β ε : Type} {f : α → Except ε β} {xs : List α} {ys : List β} :
    xs.mapM f = .ok ys ↔ List.Forall₂ (fun x y => f x = .ok y) xs ys := by
  induction xs generalizing ys with
  | nil => cases ys <;> simp [pure, Except.pure]
  | cons x xs ih =>
    rw [List.mapM_cons]
    cases hx : f x with
    | error e =>
      constructor
      · intro h
        simp [bind, Except.bind] at h
      · rintro (_ | ⟨hy, _⟩)
        simp [hx] at hy
    | ok z =>
      cases hxs : xs.mapM f with
      | error e =>
        constructor
        · intro h
          simp [bind, Except.bind] at h
        · rintro (_ | ⟨_, hys⟩)
          simp [← ih, hxs] at hys
      | ok zs =>
        constructor
        · intro h
          simp only [bind, Except.bind, pure, Except.pure, Except.ok.injEq] at h
          exact h ▸ .cons hx (ih.1 hxs)
        · rintro (_ | ⟨hy, hys⟩)
          rw [hx, Except.ok.injEq] at hy
          rw [← ih, hxs, Except.ok.injEq] at hys
          simp [bind, Except.bind, pure, Except.pure, hy, hys]

theorem exists_mem_of_mapM_eq_error {α β ε : Type} {f : α → Except ε β} {xs : List α} {e : ε}
    (h : xs.mapM f = .error e) : ∃ x ∈ xs, f x = .error e := by
  induction xs with
  | nil => simp [pure, Except.pure] at h
  | cons x xs ih =>
    rw [List.mapM_cons] at h
    cases hx : f x with
    | error e' =>
      simp only [hx, bind, Except.bind, Except.error.injEq] at h
      exact ⟨x, List.mem_cons_self, by rw [hx, h]⟩
    | ok y =>
      cases hxs : xs.mapM f with
      | error e' =>
        simp only [hx, hxs, bind, Except.bind, Except.error.injEq] at h
        obtain ⟨x', hx', hfault⟩ := ih (by rw [hxs, h])
        exact ⟨x', List.mem_cons_of_mem _ hx', hfault⟩
      | ok ys => simp [hx, hxs, bind, Except.bind, pure, Except.pure] at h

theorem exists_mem_of_forall₂ {α β : Type} {R : α → β → Prop} {xs : List α} {ys : List β} {y : β}
    (h : List.Forall₂ R xs ys) (hy : y ∈ ys) : ∃ x ∈ xs, R x y := by
  induction h with
  | nil => simp at hy
  | @cons x z xs ys hxz _ ih =>
    rcases List.mem_cons.1 hy with rfl | hy
    · exact ⟨x, List.mem_cons_self, hxz⟩
    · obtain ⟨x', hx', hr⟩ := ih hy
      exact ⟨x', List.mem_cons_of_mem _ hx', hr⟩

theorem exists_forall₂ {α β : Type} {R : α → β → Prop} {xs : List α} (h : ∀ x ∈ xs, ∃ y, R x y) :
    ∃ ys, List.Forall₂ R xs ys := by
  induction xs with
  | nil => exact ⟨[], .nil⟩
  | cons x xs ih =>
    rw [List.forall_mem_cons] at h
    obtain ⟨⟨y, hy⟩, hxs⟩ := h
    obtain ⟨ys, hys⟩ := ih hxs
    exact ⟨y :: ys, .cons hy hys⟩

namespace Recipe

variable {kind : RecipeKind} {ls ms : List Text} {commands : List Command}

/-! ### Lines with commands -/

theorem mem_of_mem_ownLines {l : Text} (h : l ∈ ownLines ls) : l ∈ ls := by
  have hl := (List.mem_filter.1 h).1
  split at hl
  · exact List.mem_of_mem_drop hl
  · exact hl

/-- The lines, which come after the first two, hold these commands besides the bootstrap script. -/
def HoldsCommands (ls : List Text) (commands : List Command) : Prop :=
  List.Forall₂ (fun line c => Command.parse line = .ok c) (ownLines (ls.map Bootstrap.migrate))
    commands

theorem forall₂_parse_filter_congr (h : ls.map Text.trim = ms.map Text.trim) :
    List.Forall₂ (fun line c => Command.parse line = .ok c)
        (ls.filter fun line => ¬ Text.IsBlank line) commands ↔
      List.Forall₂ (fun line c => Command.parse line = .ok c)
        (ms.filter fun line => ¬ Text.IsBlank line) commands := by
  induction ls generalizing ms commands with
  | nil =>
    cases ms with
    | nil => rfl
    | cons m ms => simp at h
  | cons l ls ih =>
    cases ms with
    | nil => simp at h
    | cons m ms =>
      rw [List.map_cons, List.map_cons, List.cons.injEq] at h
      have hblank : Text.IsBlank l ↔ Text.IsBlank m := by
        rw [← Text.isBlank_trim, h.1, Text.isBlank_trim]
      by_cases hl : Text.IsBlank l
      · simpa [List.filter_cons, hl, hblank.1 hl] using ih h.2
      · have hm : ¬ Text.IsBlank m := fun hm => hl (hblank.2 hm)
        simp only [List.filter_cons, hl, hm, not_false_eq_true, decide_true, ↓reduceIte,
          List.forall₂_cons_left_iff, Command.parse_eq_ok_congr h.1, ih h.2]

/-- What lines say depends only on what they hold between their blanks. -/
theorem holdsCommands_congr (h : (ls.map Bootstrap.migrate).map Text.trim =
    (ms.map Bootstrap.migrate).map Text.trim) :
    HoldsCommands ls commands ↔ HoldsCommands ms commands := by
  rw [HoldsCommands, HoldsCommands, ownLines, ownLines, Bootstrap.opens_congr h]
  split
  · refine forall₂_parse_filter_congr ?_
    rw [List.map_drop, List.map_drop, h]
  · exact forall₂_parse_filter_congr h

/-- An empty line at the end says nothing. -/
theorem holdsCommands_concat_nil :
    HoldsCommands (ls ++ [[]]) commands ↔ HoldsCommands ls commands := by
  have hnil : Bootstrap.migrate [] = [] := rfl
  have hfilter (ms : List Text) : ((ms ++ [[]]).filter fun line => ¬ Text.IsBlank line) =
      ms.filter fun line => ¬ Text.IsBlank line := by
    simp [Text.IsBlank]
  rw [HoldsCommands, HoldsCommands, ownLines, ownLines, List.map_append, List.map_singleton, hnil,
    Bootstrap.opens_concat_nil]
  split
  · rw [List.drop_append]
    rcases Nat.lt_or_ge 2 ((ls.map Bootstrap.migrate).length + 1) with hlen | hlen
    · have hdrop : 2 - (ls.map Bootstrap.migrate).length = 0 := by omega
      rw [hdrop, List.drop_zero, hfilter]
    · obtain ⟨n, hn⟩ : ∃ n, 2 - (ls.map Bootstrap.migrate).length = n + 1 :=
        ⟨1 - (ls.map Bootstrap.migrate).length, by omega⟩
      rw [hn, List.drop_succ_cons, List.drop_nil, List.append_nil]
  · rw [hfilter]

/-- The lines of pieces hold what the pieces hold between their blanks, without an empty piece at
the end. -/
theorem exists_map_trim_linesOfPieces (ls : List Text) : ∃ rest, (rest = [] ∨ rest = [[]]) ∧
    ((Text.linesOfPieces ls ++ rest).map Bootstrap.migrate).map Text.trim =
      (ls.map Bootstrap.migrate).map Text.trim := by
  rcases List.eq_nil_or_concat' ls with rfl | ⟨init, last, rfl⟩
  · exact ⟨[], .inl rfl, rfl⟩
  have hinit : ((init.map Text.dropReturn).map Bootstrap.migrate).map Text.trim =
      (init.map Bootstrap.migrate).map Text.trim := by
    simp [Bootstrap.trim_migrate_dropReturn]
  by_cases hlast : last = []
  · refine ⟨[[]], .inr rfl, ?_⟩
    rw [hlast, Text.linesOfPieces_concat_nil, List.map_append, List.map_append, hinit]
    simp
  · refine ⟨[], .inl rfl, ?_⟩
    rw [List.append_nil, Text.linesOfPieces_concat hlast, List.map_append, List.map_append, hinit]
    simp

/-- Lines say what the pieces say. -/
theorem holdsCommands_linesOfPieces (ls : List Text) :
    HoldsCommands (Text.linesOfPieces ls) commands ↔ HoldsCommands ls commands := by
  obtain ⟨rest, hrest, htrim⟩ := exists_map_trim_linesOfPieces ls
  rw [← holdsCommands_congr htrim]
  rcases hrest with rfl | rfl
  · rw [List.append_nil]
  · exact holdsCommands_concat_nil.symm

/-- Lines open as the pieces do. -/
theorem opens_linesOfPieces (ls : List Text) :
    Bootstrap.opens ((Text.linesOfPieces ls).map Bootstrap.migrate) =
      Bootstrap.opens (ls.map Bootstrap.migrate) := by
  obtain ⟨rest, hrest, htrim⟩ := exists_map_trim_linesOfPieces ls
  rw [← Bootstrap.opens_congr htrim, List.map_append]
  rcases hrest with rfl | rfl
  · rw [List.map_nil, List.append_nil]
  · exact (Bootstrap.opens_concat_nil _).symm

/-! ### Reading -/

/-- The recipe of a text with this header and these commands. -/
def ofParts (kind : RecipeKind) (id : Text) (header : AddHeader) (commands : List Command)
    (text : Text) : Recipe where
  id := id
  name := header.name
  path := if kind = .sshKey then Kind.sshKeyPath else header.path
  commands := commands
  hasBootstrap := Bootstrap.opens (migratedLines text)
  legacyAdd := header.legacy
  fromText := true
  source := some text

theorem mapM_commandLines_iff {text : Text} :
    (commandLines text).mapM Command.parse = .ok commands ↔
      HoldsCommands (bodyLines text) commands :=
  mapM_eq_ok_iff

/-- **What a text reads as.** -/
theorem parseText_eq_ok_iff {id text : Text} {r : Recipe} :
    parseText kind id text = .ok r ↔ ∃ header commands,
      AddHeader.parse (headerLine text) = .ok header ∧
        HoldsCommands (bodyLines text) commands ∧ r = ofParts kind id header commands text := by
  rw [parseText]
  cases hheader : AddHeader.parse (headerLine text) with
  | error fault => simp [bind, Except.bind]
  | ok header =>
    cases hread : (commandLines text).mapM Command.parse with
    | error fault =>
      simp [bind, Except.bind, ← mapM_commandLines_iff, hread]
    | ok commands =>
      simp only [bind, Except.bind, pure, Except.pure, Except.ok.injEq, ← mapM_commandLines_iff,
        hread]
      constructor
      · rintro rfl
        exact ⟨header, commands, rfl, rfl, rfl⟩
      · rintro ⟨header', commands', rfl, rfl, rfl⟩
        rfl

/-- **Why a text is not read.**  Either its header is none, or one of its lines holds no command. -/
theorem parseText_eq_error_iff {id text : Text} {fault : Fault} :
    parseText kind id text = .error fault ↔ AddHeader.parse (headerLine text) = .error fault ∨
      ∃ header, AddHeader.parse (headerLine text) = .ok header ∧
        (commandLines text).mapM Command.parse = .error fault := by
  rw [parseText]
  cases hheader : AddHeader.parse (headerLine text) with
  | error fault' => simp [bind, Except.bind]
  | ok header =>
    cases hread : (commandLines text).mapM Command.parse with
    | error fault' => simp [bind, Except.bind]
    | ok commands => simp [bind, Except.bind, pure, Except.pure]

/-- The fault of a text with a header quotes the line that holds no command. -/
theorem exists_eq_instruction_of_parseText {id text : Text} {header : AddHeader} {fault : Fault}
    (hheader : AddHeader.parse (headerLine text) = .ok header)
    (h : parseText kind id text = .error fault) : ∃ line, fault = .instruction line := by
  rcases parseText_eq_error_iff.1 h with hfault | ⟨-, -, hlines⟩
  · rw [hheader] at hfault
    simp at hfault
  · obtain ⟨line, -, hline⟩ := exists_mem_of_mapM_eq_error hlines
    exact ⟨line, Command.eq_instruction_of_parse hline⟩

/-- The fault of a text that is not read quotes a line. -/
theorem exists_line_of_parseText {id text : Text} {fault : Fault}
    (h : parseText kind id text = .error fault) :
    ∃ line, fault = .addLine line ∨ fault = .instruction line := by
  cases hheader : AddHeader.parse (headerLine text) with
  | ok header =>
    obtain ⟨line, hline⟩ := exists_eq_instruction_of_parseText hheader h
    exact ⟨line, .inr hline⟩
  | error fault' =>
    have hfault := h.symm.trans (parseText_eq_error_iff.2 (.inl hheader))
    rw [Except.error.injEq] at hfault
    exact ⟨_, .inl (hfault.trans (AddHeader.eq_addLine_of_parse hheader))⟩

/-- A text that is not empty is read as its lines say. -/
theorem parse_some {id text : Text} (h : text ≠ []) :
    parse kind id (some text) = parseText kind id text := by
  obtain ⟨c, t, rfl⟩ := List.exists_cons_of_ne_nil h
  rfl

/-- A text is read by its header and its migrated lines, so what becomes of a text that keeps both
is read as the same recipe of another text. -/
theorem parse_congr {text : Text} {f : Text → Text} (hnil : f text = [] ↔ text = [])
    (hheader : headerLine (f text) = headerLine text)
    (hlines : migratedLines (f text) = migratedLines text) (kind : RecipeKind) (id : Text) :
    parse kind id (some (f text)) =
      (parse kind id (some text)).map fun r => { r with source := r.source.map f } := by
  by_cases hempty : text = []
  · rw [hnil.2 hempty, hempty]
    rfl
  · have hne : f text ≠ [] := fun h => hempty (hnil.1 h)
    have hcommands : commandLines (f text) = commandLines text := by
      rw [commandLines, hlines, commandLines]
    rw [parse_some hempty, parse_some hne]
    simp only [parseText, hheader, hcommands, hlines]
    cases AddHeader.parse (headerLine text) with
    | error fault => rfl
    | ok header =>
      cases (commandLines text).mapM Command.parse with
      | error fault => rfl
      | ok commands => rfl

/-- The first line of a text that begins with a header. -/
theorem headerLine_joinLines {header : Text} {rest : List Text} (hne : header ≠ [])
    (hend : Text.trimEnd header = header) (hn : ∀ l ∈ header :: rest, '\n' ∉ l) :
    headerLine (Text.joinLines (header :: rest)) = header := by
  rw [headerLine, Text.lines, Text.splitOn_joinLines (List.cons_ne_nil _ _),
    Text.flatMap_splitOn_of_notMem hn]
  cases rest with
  | nil => simp [Text.linesOfPieces, hne]
  | cons l rest => exact Text.dropReturn_eq_self hend

theorem bodyLines_joinLines {header : Text} {rest : List Text}
    (hn : ∀ l ∈ header :: rest, '\n' ∉ l) :
    bodyLines (Text.joinLines (header :: rest)) = Text.linesOfPieces (rest.drop 1) := by
  rw [bodyLines, Text.lines, Text.splitOn_joinLines (List.cons_ne_nil _ _),
    Text.flatMap_splitOn_of_notMem hn]
  cases rest with
  | nil => by_cases h : header = [] <;> simp [Text.linesOfPieces, h]
  | cons directory rest =>
    cases rest with
    | nil => by_cases h : directory = [] <;> simp [Text.linesOfPieces, h]
    | cons l rest => rfl

/-- **Reading a header and lines below it.**  The line after the header is not looked at. -/
theorem parse_joinLines_iff {id name path : Text} {rest : List Text} {r : Recipe}
    (hn : ∀ l ∈ rest, '\n' ∉ l) :
    parse kind id (some (Text.joinLines (AddHeader.text name path :: rest))) = .ok r ↔
      ∃ commands, HoldsCommands (rest.drop 1) commands ∧ r = {
        id := id
        name := name
        path := if kind = .sshKey then Kind.sshKeyPath else path
        commands := commands
        hasBootstrap := Bootstrap.opens ((rest.drop 1).map Bootstrap.migrate)
        legacyAdd := false
        fromText := true
        source := some (Text.joinLines (AddHeader.text name path :: rest)) } := by
  have hall : ∀ l ∈ AddHeader.text name path :: rest, '\n' ∉ l :=
    List.forall_mem_cons.2 ⟨AddHeader.newline_notMem_text name path, hn⟩
  have hend := Text.trimEnd_of_trim (AddHeader.trim_text name path)
  have hheader := headerLine_joinLines (AddHeader.text_ne_nil _ _) hend hall
  have hbody := bodyLines_joinLines hall
  have hne : Text.joinLines (AddHeader.text name path :: rest) ≠ [] := by
    intro hnil
    rw [hnil] at hheader
    exact AddHeader.text_ne_nil _ _ hheader.symm
  have hholds (commands : List Command) :
      HoldsCommands (bodyLines (Text.joinLines (AddHeader.text name path :: rest))) commands ↔
        HoldsCommands (rest.drop 1) commands := by
    rw [hbody]
    exact holdsCommands_linesOfPieces _
  have hboot : Bootstrap.opens
      (migratedLines (Text.joinLines (AddHeader.text name path :: rest))) =
        Bootstrap.opens ((rest.drop 1).map Bootstrap.migrate) := by
    rw [migratedLines, hbody, opens_linesOfPieces]
  rw [parse_some hne, parseText_eq_ok_iff]
  simp only [hheader, AddHeader.parse_text, Except.ok.injEq, hholds, ofParts, hboot]
  constructor
  · rintro ⟨header, commands, rfl, hcommands, rfl⟩
    exact ⟨commands, hcommands, rfl⟩
  · rintro ⟨commands, hcommands, rfl⟩
    exact ⟨_, commands, rfl, hcommands, rfl⟩

/-! ### The commands of a recipe that was read -/

/-- Every command of the recipe was read from a line. -/
def IsRead (r : Recipe) : Prop :=
  ∀ c ∈ r.commands, ∃ line, '\n' ∉ line ∧ Command.parse (Bootstrap.migrate line) = .ok c

theorem isRead_of_parse {id : Text} {source : Option Text} {r : Recipe}
    (h : parse kind id source = .ok r) : r.IsRead := by
  match source with
  | none =>
    rw [parse, Except.ok.injEq] at h
    simp [IsRead, ← h, blank]
  | some [] =>
    rw [parse, Except.ok.injEq] at h
    simp [IsRead, ← h, blank]
  | some (a :: text) =>
    obtain ⟨header, commands, -, hread, rfl⟩ := parseText_eq_ok_iff.1 h
    intro c hc
    -- the command was read from one of the migrated lines
    obtain ⟨line, hline, hparse⟩ := exists_mem_of_forall₂ hread hc
    obtain ⟨raw, hraw, rfl⟩ := List.mem_map.1 (mem_of_mem_ownLines hline)
    exact ⟨raw, Text.newline_notMem_of_mem_lines (List.mem_of_mem_drop hraw), hparse⟩

end Recipe

end BuildCards
