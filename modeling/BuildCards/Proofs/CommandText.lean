import BuildCards.Command
import BuildCards.Text.FirstWord

/-!
# Reading commands that were written

A line holds a command if its first word is a keyword (`Command.parse_of_begins`), and the rest of
the line is the body, perhaps with a marker behind it (`Command.ofInstruction_append_marker`,
`Command.ofInstruction_of_unmarked`).

A command is *normal* (`Command.IsNormal`) if its body needs no trimming and ends in no marker
unless the command may be cached.  Lines are read as normal commands (`Command.isNormal_of_parse`),
copies are normal (`Command.isNormal_clone`), and a normal command that says something is what its
text reads as (`Command.IsNormal.parse_text`).

The line of a command begins with a letter and holds nothing of a line but its body, so a command
read from one line is written on one line (`Command.body_infix_of_parse`).
-/

namespace BuildCards

/-! ### Keywords -/

namespace Instruction

variable (i : Instruction)

theorem isBlank_of_mem_keyword {i : Instruction} {c : Char} (h : c ∈ i.keyword) :
    Text.isBlank c = false := by
  have hall : i.keyword.all (!Text.isBlank ·) = true := by cases i <;> decide
  simpa using List.all_eq_true.1 hall c h

/-- A keyword holds no blank, in whatever case its letters are. -/
theorem isBlank_of_mem_of_ofKeyword? {i : Instruction} {word : Text} {c : Char}
    (h : ofKeyword? word = some i) (hc : c ∈ word) : Text.isBlank c = false := by
  refine Bool.eq_false_iff.2 fun hblank => ?_
  have hall : Text.blanks.all (fun b => b.toUpper == b) = true := by decide
  have hupper : c.toUpper = c :=
    beq_iff_eq.1 (List.all_eq_true.1 hall c (Text.isBlank_iff.1 hblank))
  have hmem : c.toUpper ∈ i.keyword := by
    rw [← ofKeyword?_eq_some_iff.1 h]
    exact List.mem_map_of_mem hc
  rw [hupper] at hmem
  rw [isBlank_of_mem_keyword hmem] at hblank
  exact absurd hblank (by decide)

theorem keyword_ne_nil : i.keyword ≠ [] := by cases i <;> decide

/-- A line with a keyword and a rest that needs no trimming begins with the keyword. -/
theorem begins_of_ofKeyword? {i : Instruction} {word rest line : Text}
    (hi : ofKeyword? word = some i) (hrest : Text.trim rest = rest)
    (hplaced : Text.Placed word rest line) : Text.Begins word rest line where
  ne_nil := by
    rintro rfl
    exact i.keyword_ne_nil (ofKeyword?_eq_some_iff.1 hi).symm
  solid _ hc := isBlank_of_mem_of_ofKeyword? hi hc
  trimmed := hrest
  placed := hplaced

theorem trimStart_keyword : Text.trimStart i.keyword = i.keyword := by cases i <;> rfl

theorem newline_notMem_keyword : '\n' ∉ i.keyword := by cases i <;> decide

theorem head?_keyword : i.keyword.head? ≠ some '#' := by cases i <;> decide

end Instruction

namespace Command

variable {c : Command} {i : Instruction} {line rest : Text}

/-! ### Markers -/

/-- The spellings of the marker. -/
def cacheMarkers : List Text := [cacheMarker, legacyCacheMarker]

theorem trimEnd_of_mem_cacheMarkers {marker : Text} (h : marker ∈ cacheMarkers) :
    Text.trimEnd marker = marker ∧ Text.trimStart marker = marker ∧ ¬ Text.IsBlank marker := by
  revert marker
  decide

theorem beforeMarker?_eq_none_iff {t : Text} :
    beforeMarker? t = none ↔ ¬ legacyCacheMarker <:+ t ∧ ¬ cacheMarker <:+ t := by
  have hnone (m : Text) : Text.beforeEnd? m t = none ↔ ¬ m <:+ t := by
    constructor
    · rintro h ⟨u, rfl⟩
      simp at h
    · intro h
      cases hb : Text.beforeEnd? m t with
      | none => rfl
      | some u => exact absurd ⟨u, (Text.beforeEnd?_eq_some_iff.1 hb).symm⟩ h
  rw [beforeMarker?, Option.or_eq_none_iff, hnone, hnone]

theorem beforeMarker?_eq_none_iff_forall {t : Text} :
    beforeMarker? t = none ↔ ∀ marker ∈ cacheMarkers, ¬ marker <:+ t := by
  rw [beforeMarker?_eq_none_iff]
  simp [cacheMarkers, and_comm]

theorem exists_eq_append_of_beforeMarker? {t u : Text} (h : beforeMarker? t = some u) :
    ∃ marker ∈ cacheMarkers, t = u ++ marker := by
  rw [beforeMarker?, Option.or_eq_some_iff] at h
  rcases h with h | ⟨-, h⟩
  · exact ⟨_, by simp [cacheMarkers], Text.beforeEnd?_eq_some_iff.1 h⟩
  · exact ⟨_, by simp [cacheMarkers], Text.beforeEnd?_eq_some_iff.1 h⟩

theorem prefix_of_beforeMarker? {t u : Text} (h : beforeMarker? t = some u) : u <+: t := by
  obtain ⟨marker, -, rfl⟩ := exists_eq_append_of_beforeMarker? h
  exact ⟨marker, rfl⟩

/-- A marker at the end is read as such: no text ends in both spellings. -/
theorem beforeMarker?_append {marker : Text} (hmarker : marker ∈ cacheMarkers) (t : Text) :
    beforeMarker? (t ++ marker) = some t := by
  rcases List.mem_cons.1 hmarker with rfl | hmarker
  · have hlegacy : Text.beforeEnd? legacyCacheMarker (t ++ cacheMarker) = none := by
      cases h : Text.beforeEnd? legacyCacheMarker (t ++ cacheMarker) with
      | none => rfl
      | some u =>
        have hsuffix : legacyCacheMarker <:+ t ++ cacheMarker :=
          ⟨u, (Text.beforeEnd?_eq_some_iff.1 h).symm⟩
        have hboth := List.suffix_of_suffix_length_le (List.suffix_append t cacheMarker) hsuffix
          (by decide)
        exact absurd hboth (by decide)
    rw [beforeMarker?, hlegacy, Text.beforeEnd?_append]
    rfl
  · rw [List.mem_singleton.1 hmarker, beforeMarker?, Text.beforeEnd?_append]
    rfl

/-- What stands before a marker is the body. -/
theorem ofInstruction_append_marker (i : Instruction) {marker : Text}
    (hmarker : marker ∈ cacheMarkers) (t : Text) :
    ofInstruction i (t ++ marker) = ⟨some i, Text.trim t, true⟩ := by
  obtain ⟨hend, -, hblank⟩ := trimEnd_of_mem_cacheMarkers hmarker
  have htrim : Text.trimEnd (t ++ marker) = t ++ marker := by
    rw [Text.trimEnd_append hblank, hend]
  rw [ofInstruction, htrim, beforeMarker?_append hmarker]

/-- Without a marker at its end, all that follows the keyword is the body. -/
theorem ofInstruction_of_unmarked (i : Instruction) (hrest : Text.trim rest = rest)
    (h : beforeMarker? rest = none) : ofInstruction i rest = ⟨some i, rest, false⟩ := by
  rw [ofInstruction, Text.trimEnd_of_trim hrest, h, hrest]

/-! ### Normal commands -/

/-- The command has the form in which lines are read. -/
structure IsNormal (c : Command) : Prop where
  /-- The body needs no trimming. -/
  trimmed : Text.trim c.body = c.body
  /-- A marker at the end of the body would have been read as one. -/
  unmarked : c.cache = false → beforeMarker? c.body = none

theorem isNormal_blank : blank.IsNormal := ⟨rfl, fun _ => rfl⟩

theorem isNormal_ofInstruction (i : Instruction) (rest : Text) :
    (ofInstruction i rest).IsNormal := by
  unfold ofInstruction
  split
  · exact ⟨Text.trim_trim, fun h => by simp at h⟩
  next hnone =>
    refine ⟨Text.trim_trim, fun _ => ?_⟩
    -- what ends the trimmed text ends the text
    have hsuffix : Text.trim rest <:+ Text.trimEnd rest := by
      rw [Text.trim_eq_trimStart_trimEnd]
      exact List.dropWhile_suffix _
    obtain ⟨hl, hm⟩ := beforeMarker?_eq_none_iff.1 hnone
    exact beforeMarker?_eq_none_iff.2 ⟨fun h => hl (h.trans hsuffix), fun h => hm (h.trans hsuffix)⟩

theorem isNormal_of_parse (h : parse line = .ok c) : c.IsNormal := by
  unfold parse at h
  split at h
  · rw [Except.ok.injEq] at h
    exact h ▸ isNormal_blank
  · split at h
    · rw [Except.ok.injEq] at h
      exact h ▸ isNormal_ofInstruction _ _
    · simp at h

/-! ### Reading -/

/-- What a line reads as, if it reads as anything, is what it holds between its blanks. -/
theorem parse_eq_ok_congr {line' : Text} (h : Text.trim line = Text.trim line') :
    parse line = .ok c ↔ parse line' = .ok c := by
  unfold parse
  rw [h]
  split
  · rfl
  · split
    · rfl
    · simp

theorem parse_of_isBlank (h : Text.IsBlank line) : parse line = .ok blank := by
  unfold parse
  rw [Text.trim_eq_nil_iff.2 h]

/-- The fault of a line that holds no command quotes it. -/
theorem eq_instruction_of_parse {fault : Fault} (h : parse line = .error fault) :
    fault = .instruction line := by
  unfold parse at h
  split at h
  · simp at h
  · split at h
    · simp at h
    · exact (Except.error.inj h).symm

/-- What a line holds is decided by its first word. -/
theorem parse_of_begins {word : Text} (h : Text.Begins word rest line) :
    parse line = (Instruction.ofKeyword? word).elim (.error (.instruction line))
      fun i => .ok (ofInstruction i rest) := by
  obtain ⟨hword, hrest⟩ := h.cut
  unfold parse
  split
  next hnil =>
    rw [hnil] at hword
    exact absurd hword.symm h.ne_nil
  next a t hcons =>
    rw [← hcons, hword, hrest]
    cases Instruction.ofKeyword? word <;> rfl

/-- A line whose first word is a keyword holds a command. -/
theorem parse_of_keyword {word : Text} (h : Text.Begins word rest line)
    (hi : Instruction.ofKeyword? word = some i) : parse line = .ok (ofInstruction i rest) := by
  rw [parse_of_begins h, hi, Option.elim_some]

/-- A line with any other first word holds none. -/
theorem parse_of_no_keyword {word : Text} (h : Text.Begins word rest line)
    (hi : Instruction.ofKeyword? word = none) : parse line = .error (.instruction line) := by
  rw [parse_of_begins h, hi, Option.elim_none]

/-- A keyword and what follows it after a space. -/
theorem parse_keyword (i : Instruction) (t : Text) :
    parse (i.keyword ++ ' ' :: t) = .ok (ofInstruction i (Text.trim t)) := by
  obtain ⟨before, after, hbefore, hafter, ht⟩ := Text.exists_trim t
  have hspace : Text.IsBlank (' ' :: before) := List.forall_mem_cons.2 ⟨by decide, hbefore⟩
  have hplaced : Text.Placed i.keyword (Text.trim t) (i.keyword ++ ' ' :: t) := by
    refine ⟨[], ' ' :: before, after, by decide, hspace, hafter, by simp, ?_⟩
    conv => lhs; rw [ht]
    simp
  have hi : Instruction.ofKeyword? i.keyword = some i := i.ofKeyword?_keyword
  exact parse_of_keyword (Instruction.begins_of_ofKeyword? hi Text.trim_trim hplaced) hi

/-- The body of a command is found in the line that it is read from. -/
theorem body_infix_of_parse (h : parse line = .ok c) : c.body <:+: line := by
  unfold parse at h
  split at h
  · rw [Except.ok.injEq] at h
    rw [← h]
    exact List.nil_infix
  next a t htrim =>
    split at h
    next i _ =>
      rw [Except.ok.injEq] at h
      rw [← h]
      -- the body is a part of the rest of the line, and that of the line
      have hbody (rest : Text) : (ofInstruction i rest).body <:+: rest := by
        unfold ofInstruction
        split
        next u hu =>
          have hend : Text.trimEnd rest <:+: rest := (Text.trimEnd_isPrefix rest).isInfix
          exact (Text.trim_isInfix u).trans ((prefix_of_beforeMarker? hu).isInfix.trans hend)
        · exact Text.trim_isInfix rest
      have hrest : Text.trimStart ((a :: t).dropWhile (!Text.isBlank ·)) <:+: line := by
        have hline : a :: t <:+: line := htrim ▸ Text.trim_isInfix line
        exact ((List.dropWhile_suffix _).trans (List.dropWhile_suffix _)).isInfix.trans hline
      exact (hbody _).trans hrest
    · simp at h

/-! ### Reading what was written -/

theorem text_of_instruction (hi : c.instruction = some i) (hb : ¬ Text.IsBlank c.body) :
    c.text = i.keyword ++
      ' ' :: (Text.trim c.body ++ if c.cache then ' ' :: cacheMarker else []) := by
  simp [text, hi, hb]

theorem text_eq_nil_iff : c.text = [] ↔ c.instruction = none ∨ Text.IsBlank c.body := by
  cases hi : c.instruction with
  | none => simp [text, hi]
  | some i =>
    by_cases hb : Text.IsBlank c.body
    · simp [text, hi, hb]
    · simp [text_of_instruction hi hb, hb]

/-- A command that says something has an instruction and a body. -/
theorem exists_instruction (h : c.text ≠ []) :
    ∃ i, c.instruction = some i ∧ ¬ Text.IsBlank c.body := by
  rw [Ne, text_eq_nil_iff, not_or] at h
  obtain ⟨i, hi⟩ := Option.ne_none_iff_exists'.1 h.1
  exact ⟨i, hi, h.2⟩

/-- What is written after the instruction and its space needs no trimming. -/
theorem trim_body_append_marker (hb : ¬ Text.IsBlank c.body) :
    Text.trim (Text.trim c.body ++ if c.cache then ' ' :: cacheMarker else []) =
      Text.trim c.body ++ if c.cache then ' ' :: cacheMarker else [] := by
  split
  · have hne : Text.trim c.body ≠ [] := fun h => hb (Text.trim_eq_nil_iff.1 h)
    exact Text.trim_append_of_trimmed Text.trimStart_trim (by decide) hne (List.cons_ne_nil _ _)
  · rw [List.append_nil, Text.trim_trim]

theorem parse_text_of_instruction (hi : c.instruction = some i) (hb : ¬ Text.IsBlank c.body) :
    parse c.text = .ok (ofInstruction i
      (Text.trim c.body ++ if c.cache then ' ' :: cacheMarker else [])) := by
  rw [text_of_instruction hi hb, parse_keyword, trim_body_append_marker hb]

/-- A command that may be cached is written with a marker behind its body. -/
theorem ofInstruction_append_cacheMarker (i : Instruction) (body : Text) :
    ofInstruction i (body ++ ' ' :: cacheMarker) = ⟨some i, Text.trim body, true⟩ := by
  have happ : body ++ ' ' :: cacheMarker = (body ++ [' ']) ++ cacheMarker := by simp
  rw [happ, ofInstruction_append_marker i (by simp [cacheMarkers]),
    Text.trim_append_of_isBlank (by decide)]

/-- **A normal command is what its text reads as.** -/
theorem IsNormal.parse_text (hc : c.IsNormal) (hne : c.text ≠ []) : parse c.text = .ok c := by
  obtain ⟨instruction, body, cache⟩ := c
  obtain ⟨i, rfl, hb⟩ := exists_instruction hne
  rw [parse_text_of_instruction rfl hb, Except.ok.injEq]
  have htrim : Text.trim body = body := hc.trimmed
  cases cache with
  | true =>
    simp only [↓reduceIte]
    rw [htrim, ofInstruction_append_cacheMarker, htrim]
  | false =>
    simp only [Bool.false_eq_true, ↓reduceIte, List.append_nil]
    rw [htrim, ofInstruction_of_unmarked i htrim (hc.unmarked rfl)]

/-- The text of a command reads as its copy. -/
theorem parse_text (c : Command) : parse c.text = .ok c.clone := by
  have hok : ∃ d, parse c.text = .ok d := by
    by_cases hne : c.text = []
    · exact ⟨blank, by rw [hne]; rfl⟩
    · obtain ⟨i, hi, hb⟩ := exists_instruction hne
      exact ⟨_, parse_text_of_instruction hi hb⟩
  obtain ⟨d, hd⟩ := hok
  rw [clone, hd]

theorem isNormal_clone (c : Command) : c.clone.IsNormal := isNormal_of_parse (parse_text c)

theorem IsNormal.clone_eq (hc : c.IsNormal) (hne : c.text ≠ []) : c.clone = c := by
  have h := (Command.parse_text c).symm.trans (hc.parse_text hne)
  rwa [Except.ok.injEq] at h

/-- A normal command and its copy have the same text. -/
theorem IsNormal.text_clone (hc : c.IsNormal) : c.clone.text = c.text := by
  by_cases hne : c.text = []
  · have hblank := Command.parse_text c
    rw [hne, parse_of_isBlank (by decide), Except.ok.injEq] at hblank
    rw [hne, ← hblank]
    rfl
  · rw [hc.clone_eq hne]

/-! ### The form of a written line -/

theorem trim_text (c : Command) : Text.trim c.text = c.text := by
  by_cases hne : c.text = []
  · rw [hne]
    rfl
  · obtain ⟨i, hi, hbody⟩ := exists_instruction hne
    have htrim := trim_body_append_marker hbody
    rw [text_of_instruction hi hbody]
    refine Text.trim_append_of_trimmed i.trimStart_keyword ?_ i.keyword_ne_nil
      (List.cons_ne_nil _ _)
    have hb : ¬ Text.IsBlank (Text.trim c.body ++ if c.cache then ' ' :: cacheMarker else []) :=
      fun h => hbody (Text.isBlank_trim.1 (Text.isBlank_append.1 h).1)
    have happ := Text.trimEnd_append (t := [' ']) hb
    rw [Text.trimEnd_of_trim htrim] at happ
    exact happ

theorem head?_text (c : Command) : c.text.head? ≠ some '#' := by
  by_cases hne : c.text = []
  · simp [hne]
  · obtain ⟨i, hi, hb⟩ := exists_instruction hne
    obtain ⟨a, t, hkey⟩ := List.exists_cons_of_ne_nil i.keyword_ne_nil
    have hhead := i.head?_keyword
    rw [text_of_instruction hi hb, hkey]
    rw [hkey] at hhead
    exact hhead

theorem newline_notMem_text (h : '\n' ∉ c.body) : '\n' ∉ c.text := by
  by_cases hne : c.text = []
  · simp [hne]
  · obtain ⟨i, hi, hb⟩ := exists_instruction hne
    rw [text_of_instruction hi hb]
    have hbody : '\n' ∉ Text.trim c.body := fun hm => h ((Text.trim_isInfix c.body).mem hm)
    have hmarker : '\n' ∉ cacheMarker := by decide
    have hkey := i.newline_notMem_keyword
    cases c.cache <;> simp [hbody, hmarker, hkey]

theorem newline_notMem_clone (h : '\n' ∉ c.body) : '\n' ∉ c.clone.body := fun hm =>
  newline_notMem_text h ((body_infix_of_parse (parse_text c)).mem hm)

end Command

end BuildCards
