import BuildCards.Proofs.CommandText

/-!
# The lines of commands

Which lines are read as commands, told without a reader.  A line *spells* a command
(`Command.Spells`) if it holds a keyword, in any case of its letters, blanks, the body, and perhaps
a marker in one of its spellings.  The other lines that are read have no body (`Command.Bodiless`):
they are blank, or hold a keyword alone or a keyword and a marker.

**Main theorems.**  These are all lines that are read, and every other line is a fault that quotes
it (`Command.parse_grammar`).  The text of a command, whatever its fields are, is read as the
command that it settles to (`Command.Settles`); a command that was read from a line and says
something has settled (`Command.parse_text_settles`).
-/

namespace BuildCards

namespace Command

variable {c d : Command} {i : Instruction} {line word : Text}

/-! ### The grammar -/

/-- The line holds the command: its keyword, its body and, if it may be cached, a marker. -/
inductive Spells (line : Text) : Command → Prop
  | plain {i : Instruction} {word body : Text} (hword : word.map Char.toUpper = i.keyword)
      (hne : body ≠ []) (hbody : Text.trim body = body)
      (hend : ∀ marker ∈ cacheMarkers, ¬ marker <:+ body)
      (hline : Text.Placed word body line) : Spells line ⟨some i, body, false⟩
  | marked {i : Instruction} {word body space marker : Text}
      (hword : word.map Char.toUpper = i.keyword)
      (hne : body ≠ []) (hbody : Text.trim body = body)
      (hspace : Text.IsBlank space) (hmarker : marker ∈ cacheMarkers)
      (hline : Text.Placed word (body ++ (space ++ marker)) line) : Spells line ⟨some i, body, true⟩

/-- The line holds no body: it is blank, or it holds a keyword alone or a keyword and a marker. -/
inductive Bodiless (line : Text) : Prop
  | blank (hline : Text.IsBlank line)
  | keyword {i : Instruction} {word : Text} (hword : word.map Char.toUpper = i.keyword)
      (hline : Text.Placed word [] line)
  | marker {i : Instruction} {word marker : Text} (hword : word.map Char.toUpper = i.keyword)
      (hmarker : marker ∈ cacheMarkers) (hline : Text.Placed word marker line)

theorem isBlank_iff : c.isBlank = true ↔ c.text = [] := by
  rw [text_eq_nil_iff, isBlank, Bool.or_eq_true, Option.isNone_iff_eq_none, decide_eq_true_iff]

theorem isBlank_eq_false_iff : c.isBlank = false ↔ c.text ≠ [] := by
  rw [Ne, ← isBlank_iff, Bool.not_eq_true]

/-- A body that needs no trimming says something exactly if it is not empty. -/
theorem isBlank_mk {body : Text} (hbody : Text.trim body = body) (cache : Bool) :
    (⟨some i, body, cache⟩ : Command).isBlank = decide (body = []) := by
  have hblank : Text.IsBlank body ↔ body = [] := by rw [← Text.trim_eq_nil_iff, hbody]
  simp [isBlank, hblank]

/-! ### Completeness -/

theorem parse_of_placed {rest : Text} (hword : word.map Char.toUpper = i.keyword)
    (hrest : Text.trim rest = rest) (hline : Text.Placed word rest line) :
    parse line = .ok (ofInstruction i rest) := by
  have hi : Instruction.ofKeyword? word = some i := Instruction.ofKeyword?_eq_some_iff.2 hword
  exact parse_of_keyword (Instruction.begins_of_ofKeyword? hi hrest hline) hi

/-- A line that spells a command is read as this command. -/
theorem Spells.parse (h : Spells line c) : parse line = .ok c ∧ c.isBlank = false := by
  cases h with
  | @plain i word body hword hne hbody hend hline =>
    refine ⟨?_, by simpa [isBlank_mk hbody] using hne⟩
    have hmark : beforeMarker? body = none := beforeMarker?_eq_none_iff_forall.2 hend
    rw [parse_of_placed hword hbody hline, ofInstruction_of_unmarked i hbody hmark]
  | @marked i word body space marker hword hne hbody hspace hmarker hline =>
    refine ⟨?_, by simpa [isBlank_mk hbody] using hne⟩
    obtain ⟨hend, -, hblank⟩ := trimEnd_of_mem_cacheMarkers hmarker
    have hmark : Text.trimEnd (space ++ marker) = space ++ marker := by
      rw [Text.trimEnd_append hblank, hend]
    have htrim : Text.trim (body ++ (space ++ marker)) = body ++ (space ++ marker) := by
      refine Text.trim_append_of_trimmed (Text.trimStart_of_trim hbody) hmark hne ?_
      rintro hnil
      rw [(List.append_eq_nil_iff.1 hnil).2] at hblank
      exact hblank (by decide)
    rw [parse_of_placed hword htrim hline, ← List.append_assoc,
      ofInstruction_append_marker i hmarker, Text.trim_append_of_isBlank hspace, hbody]

/-- A line without a body is read and says nothing. -/
theorem Bodiless.exists_parse (h : Bodiless line) :
    ∃ c, parse line = .ok c ∧ c.isBlank = true := by
  cases h with
  | blank hline => exact ⟨Command.blank, parse_of_isBlank hline, rfl⟩
  | @keyword i word hword hline =>
    refine ⟨_, parse_of_placed hword (by decide) hline, ?_⟩
    rw [ofInstruction_of_unmarked i (by decide) (by decide)]
    rfl
  | @marker i word marker hword hmarker hline =>
    obtain ⟨hend, hstart, -⟩ := trimEnd_of_mem_cacheMarkers hmarker
    have htrim : Text.trim marker = marker := by rw [Text.trim, hstart, hend]
    refine ⟨_, parse_of_placed hword htrim hline, ?_⟩
    have happ := ofInstruction_append_marker i hmarker []
    rw [List.nil_append] at happ
    rw [happ]
    rfl

/-! ### Soundness -/

/-- What stands before a marker in a trimmed text begins with no blank. -/
theorem trimStart_of_append_marker {t marker : Text} (hmarker : marker ∈ cacheMarkers)
    (h : Text.trim (t ++ marker) = t ++ marker) : Text.trimStart t = t := by
  obtain ⟨-, hstart, -⟩ := trimEnd_of_mem_cacheMarkers hmarker
  have happ : Text.trimStart (t ++ marker) = t ++ marker := Text.trimStart_of_trim h
  by_cases ht : Text.IsBlank t
  · rw [Text.trimStart_append_of_isBlank ht, hstart, List.self_eq_append_left] at happ
    rw [happ]
    rfl
  · rw [Text.trimStart_append ht] at happ
    exact List.append_cancel_right happ

/-- A line that is read spells its command, or it has no body. -/
theorem spells_or_bodiless (h : parse line = .ok c) :
    c.isBlank = false ∧ Spells line c ∨ c.isBlank = true ∧ Bodiless line := by
  by_cases hline : Text.IsBlank line
  · rw [parse_of_isBlank hline, Except.ok.injEq] at h
    exact .inr ⟨h ▸ rfl, .blank hline⟩
  obtain ⟨word, rest, hbegins⟩ := Text.exists_begins hline
  cases hi : Instruction.ofKeyword? word with
  | none =>
    rw [parse_of_no_keyword hbegins hi] at h
    simp at h
  | some i =>
    have hword : word.map Char.toUpper = i.keyword := Instruction.ofKeyword?_eq_some_iff.1 hi
    have hplaced : Text.Placed word rest line := hbegins.placed
    rw [parse_of_keyword hbegins hi, Except.ok.injEq] at h
    cases hmark : beforeMarker? rest with
    | none =>
      rw [ofInstruction_of_unmarked i hbegins.trimmed hmark] at h
      rw [← h, isBlank_mk hbegins.trimmed]
      by_cases hrest : rest = []
      · exact .inr ⟨by simp [hrest], .keyword hword (hrest ▸ hplaced)⟩
      · have hend := beforeMarker?_eq_none_iff_forall.1 hmark
        exact .inl ⟨by simp [hrest], .plain hword hrest hbegins.trimmed hend hplaced⟩
    | some t =>
      obtain ⟨marker, hmarker, rfl⟩ := exists_eq_append_of_beforeMarker? hmark
      have hstart : Text.trimStart t = t := trimStart_of_append_marker hmarker hbegins.trimmed
      rw [ofInstruction_append_marker i hmarker] at h
      rw [← h, isBlank_mk Text.trim_trim]
      by_cases hnil : Text.trim t = []
      · have ht : t = [] := by
          rw [← hstart]
          exact Text.trimStart_eq_nil_iff.2 (Text.trim_eq_nil_iff.1 hnil)
        rw [ht] at hplaced
        exact .inr ⟨by simp [hnil], .marker hword hmarker hplaced⟩
      · obtain ⟨space, hspace, ht⟩ := Text.exists_trimEnd t
        have htrim : Text.trim t = Text.trimEnd t := by rw [Text.trim, hstart]
        have hrest : t ++ marker = Text.trim t ++ (space ++ marker) := by
          rw [htrim, ← List.append_assoc, ← ht]
        rw [hrest] at hplaced
        exact .inl ⟨by simp [hnil], .marked hword hnil Text.trim_trim hspace hmarker hplaced⟩

/-- **The lines of commands.**  A line is read as a command that says something exactly if it spells
this command, and as one that says nothing exactly if it has no body.  Any other line is refused,
with a fault that quotes it as it is. -/
theorem parse_grammar (line : Text) :
    (∀ c, parse line = .ok c ∧ c.isBlank = false ↔ Spells line c) ∧
    ((∃ c, parse line = .ok c ∧ c.isBlank = true) ↔ Bodiless line) ∧
    (∀ fault, parse line = .error fault ↔
      fault = .instruction line ∧ (∀ c, ¬ Spells line c) ∧ ¬ Bodiless line) := by
  refine ⟨fun c => ⟨?_, Spells.parse⟩, ⟨?_, Bodiless.exists_parse⟩, fun fault => ⟨?_, ?_⟩⟩
  · rintro ⟨hparse, hspeaks⟩
    rcases spells_or_bodiless hparse with ⟨-, hspells⟩ | ⟨hblank, -⟩
    · exact hspells
    · rw [hspeaks] at hblank
      exact absurd hblank (by decide)
  · rintro ⟨c, hparse, hblank⟩
    rcases spells_or_bodiless hparse with ⟨hspeaks, -⟩ | ⟨-, hbodiless⟩
    · rw [hspeaks] at hblank
      exact absurd hblank (by decide)
    · exact hbodiless
  · intro hfault
    refine ⟨eq_instruction_of_parse hfault, fun c hspells => ?_, fun hbodiless => ?_⟩
    · rw [hspells.parse.1] at hfault
      simp at hfault
    · obtain ⟨c, hparse, -⟩ := hbodiless.exists_parse
      rw [hparse] at hfault
      simp at hfault
  · rintro ⟨rfl, hspells, hbodiless⟩
    cases hparse : parse line with
    | error fault => rw [eq_instruction_of_parse hparse]
    | ok c =>
      rcases spells_or_bodiless hparse with ⟨-, h⟩ | ⟨-, h⟩
      · exact absurd h (hspells c)
      · exact absurd h hbodiless

/-- A marker may follow the body at once, but not the keyword. -/
example : parse "run make#runnable-cache".toList = .ok ⟨some .run, "make".toList, true⟩ ∧
    parse "run#runnable-cache".toList = .error (.instruction "run#runnable-cache".toList) :=
  ⟨rfl, rfl⟩

/-! ### Reading what was written -/

/-- What becomes of a command when its text is read. -/
inductive Settles (c : Command) : Command → Prop
  | blank (h : c.instruction = none ∨ Text.IsBlank c.body) : Settles c Command.blank
  | cached {i : Instruction} (hi : c.instruction = some i) (hbody : ¬ Text.IsBlank c.body)
      (hcache : c.cache = true) : Settles c ⟨some i, Text.trim c.body, true⟩
  | marked {i : Instruction} {body marker : Text} (hi : c.instruction = some i)
      (hbody : ¬ Text.IsBlank c.body) (hcache : c.cache = false) (hmarker : marker ∈ cacheMarkers)
      (htrim : Text.trim c.body = body ++ marker) : Settles c ⟨some i, Text.trim body, true⟩
  | plain {i : Instruction} (hi : c.instruction = some i) (hbody : ¬ Text.IsBlank c.body)
      (hcache : c.cache = false) (hend : ∀ marker ∈ cacheMarkers, ¬ marker <:+ Text.trim c.body) :
      Settles c ⟨some i, Text.trim c.body, false⟩

/-- The text of a command is read as what it settles to. -/
theorem Settles.parse_text (h : c.Settles d) : parse c.text = .ok d := by
  cases h with
  | blank h =>
    rw [text_eq_nil_iff.2 h]
    rfl
  | @cached i hi hbody hcache =>
    rw [parse_text_of_instruction hi hbody, hcache, if_pos rfl, ofInstruction_append_cacheMarker,
      Text.trim_trim]
  | @marked i body marker hi hbody hcache hmarker htrim =>
    rw [parse_text_of_instruction hi hbody, hcache, if_neg (by decide), List.append_nil, htrim,
      ofInstruction_append_marker i hmarker]
  | @plain i hi hbody hcache hend =>
    have hmark : beforeMarker? (Text.trim c.body) = none :=
      beforeMarker?_eq_none_iff_forall.2 hend
    rw [parse_text_of_instruction hi hbody, hcache, if_neg (by decide), List.append_nil,
      ofInstruction_of_unmarked i Text.trim_trim hmark]

/-- Every command settles to one. -/
theorem exists_settles (c : Command) : ∃ d, c.Settles d := by
  by_cases hne : c.text = []
  · exact ⟨_, .blank (text_eq_nil_iff.1 hne)⟩
  obtain ⟨i, hi, hbody⟩ := exists_instruction hne
  cases hcache : c.cache with
  | true => exact ⟨_, .cached hi hbody hcache⟩
  | false =>
    cases hmark : beforeMarker? (Text.trim c.body) with
    | some body =>
      obtain ⟨marker, hmarker, htrim⟩ := exists_eq_append_of_beforeMarker? hmark
      exact ⟨_, .marked hi hbody hcache hmarker htrim⟩
    | none => exact ⟨_, .plain hi hbody hcache (beforeMarker?_eq_none_iff_forall.1 hmark)⟩

/-- **Commands and their texts.**  The text of a command, whatever its fields are, is read as its
copy, and this is the command that it settles to.  A command that was read from a line and says
something is what its own text is read as, and a line that was read and written is not changed when
it is read and written again. -/
theorem parse_text_settles :
    (∀ c : Command, parse c.text = .ok c.clone) ∧
    (∀ c d : Command, parse c.text = .ok d ↔ c.Settles d) ∧
    (∀ line c, parse line = .ok c → c.isBlank = false → parse c.text = .ok c) ∧
    (∀ line c, parse line = .ok c → ∃ d, parse c.text = .ok d ∧ d.text = c.text) := by
  refine ⟨parse_text, fun c d => ⟨?_, Settles.parse_text⟩, ?_, ?_⟩
  · intro hparse
    obtain ⟨d', hd'⟩ := c.exists_settles
    rw [hd'.parse_text, Except.ok.injEq] at hparse
    exact hparse ▸ hd'
  · intro line c hparse hspeaks
    exact (isNormal_of_parse hparse).parse_text (isBlank_eq_false_iff.1 hspeaks)
  · intro line c hparse
    exact ⟨c.clone, c.parse_text, (isNormal_of_parse hparse).text_clone⟩

/-- Of several markers at the end of a line only the last one is taken off. -/
example : parse "RUN ls # runnable-cache#runnable-cache".toList =
    .ok ⟨some .run, "ls # runnable-cache".toList, true⟩ :=
  rfl

end Command

end BuildCards
