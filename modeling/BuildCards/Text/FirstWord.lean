import BuildCards.Text.Basic

/-!
# The first word of a line

A line that is not blank begins with a word, and the rest follows it (`Text.Begins`): blanks stand
around both, and between them if there is a rest.  Every such line can be read so
(`Text.exists_begins`), in one way only, which is found by cutting what the line holds between its
blanks behind its first characters that are not blank (`Text.Begins.cut`).
-/

namespace BuildCards

namespace Text

variable {word rest line t u : Text}

/-- The line holds the word and then the rest.  Blanks stand around both, and between them if there
is a rest. -/
def Placed (word rest line : Text) : Prop :=
  ∃ before gap after, IsBlank before ∧ IsBlank gap ∧ IsBlank after ∧
    (rest ≠ [] → gap ≠ []) ∧ line = before ++ (word ++ (gap ++ (rest ++ after)))

/-- The word is the first of the line, and the rest is all that follows. -/
structure Begins (word rest line : Text) : Prop where
  /-- The word is not empty. -/
  ne_nil : word ≠ []
  /-- The word holds no blank. -/
  solid : ∀ c ∈ word, isBlank c = false
  /-- The rest needs no trimming. -/
  trimmed : trim rest = rest
  /-- The line holds both. -/
  placed : Placed word rest line

/-- What such a line holds between its blanks. -/
theorem Begins.exists_trim (h : Begins word rest line) : ∃ gap, IsBlank gap ∧
    (rest ≠ [] → gap ≠ []) ∧ trim line = word ++ (gap ++ rest) := by
  obtain ⟨a, t, ha⟩ := List.exists_cons_of_ne_nil h.ne_nil
  have ha' : isBlank a = false := h.solid a (by simp [ha])
  have hstart : trimStart word = word := by rw [ha, trimStart_cons ha']
  have hword : ¬ IsBlank word := by
    intro hblank
    rw [hblank a (by simp [ha])] at ha'
    exact absurd ha' (by decide)
  obtain ⟨before, gap, after, hbefore, hgap, hafter, hsep, rfl⟩ := h.placed
  have htrim : trim (before ++ (word ++ (gap ++ (rest ++ after)))) =
      trimEnd (word ++ (gap ++ rest)) := by
    have hassoc : word ++ (gap ++ (rest ++ after)) = (word ++ (gap ++ rest)) ++ after := by simp
    rw [trim, trimStart_append_of_isBlank hbefore, trimStart_append hword, hstart, hassoc,
      trimEnd_append_of_isBlank hafter]
  by_cases hrest : rest = []
  · subst hrest
    refine ⟨[], by simp [IsBlank], fun hne => absurd rfl hne, ?_⟩
    rw [htrim, List.append_nil, List.append_nil, List.append_nil, trimEnd_append_of_isBlank hgap,
      trimEnd_of_forall h.solid]
  · have hblank : ¬ IsBlank rest := fun hb => hrest (h.trimmed ▸ trim_eq_nil_iff.2 hb)
    have happ := trimEnd_append (t := word ++ gap) hblank
    rw [trimEnd_of_trim h.trimmed, List.append_assoc] at happ
    exact ⟨gap, hgap, hsep, htrim.trans happ⟩

/-- What such a line holds between its blanks is cut behind the word. -/
theorem Begins.cut (h : Begins word rest line) :
    (trim line).takeWhile (!isBlank ·) = word ∧
      trimStart ((trim line).dropWhile (!isBlank ·)) = rest := by
  obtain ⟨gap, hgap, hne, htrim⟩ := h.exists_trim
  have hword : ∀ a ∈ word, (!isBlank a) = true := by
    intro a ha
    simp [h.solid a ha]
  have hrest : trimStart (gap ++ rest) = rest := by
    rw [trimStart_append_of_isBlank hgap, trimStart_of_trim h.trimmed]
  -- behind the word there is a blank or nothing
  have hstop : (gap ++ rest).takeWhile (!isBlank ·) = [] ∧
      (gap ++ rest).dropWhile (!isBlank ·) = gap ++ rest := by
    cases gap with
    | nil =>
      have hnil : rest = [] := Decidable.not_not.1 fun hr => hne hr rfl
      simp [hnil]
    | cons a t =>
      have ha : isBlank a = true := hgap a List.mem_cons_self
      simp [ha]
  rw [htrim, List.takeWhile_append_of_pos hword, List.dropWhile_append_of_pos hword, hstop.1,
    hstop.2, List.append_nil]
  exact ⟨rfl, hrest⟩

/-! ### Finding it -/

/-- What is left after leading blanks begins with no blank. -/
theorem isBlank_of_trimStart {a : Char} (h : trimStart t = a :: u) : isBlank a = false := by
  unfold trimStart at h
  have hhead := List.head_dropWhile_not isBlank (l := t) (by simp [h])
  simpa [h] using hhead

/-- What ends a trimmed text is trimmed when its leading blanks are left out. -/
theorem trim_trimStart_of_append (h : trim (t ++ u) = t ++ u) :
    trim (trimStart u) = trimStart u := by
  rw [trim, trimStart_trimStart]
  by_cases hu : IsBlank u
  · rw [trimStart_eq_nil_iff.2 hu]
    rfl
  · have hend : trimEnd (t ++ u) = t ++ u := trimEnd_of_trim h
    rw [trimEnd_append hu, List.append_cancel_left_eq] at hend
    have htrim : trim u = trimStart u := by rw [trim_eq_trimStart_trimEnd, hend]
    exact htrim

/-- **Every line that is not blank begins with a word.** -/
theorem exists_begins (h : ¬ IsBlank line) : ∃ word rest, Begins word rest line := by
  obtain ⟨before, after, hbefore, hafter, hline⟩ := exists_trim line
  obtain ⟨a, t, ha⟩ : ∃ a t, trim line = a :: t :=
    List.exists_cons_of_ne_nil fun hnil => h (trim_eq_nil_iff.1 hnil)
  have hfirst : isBlank a = false := isBlank_of_trimStart (trimStart_trim.trans ha)
  have hall (p : Char → Bool) (l : Text) : ∀ c ∈ l.takeWhile p, p c = true := by
    intro c hc
    exact List.all_eq_true.1 List.all_takeWhile c hc
  have hcut : (trim line).takeWhile (!isBlank ·) ++ (trim line).dropWhile (!isBlank ·) =
      trim line := List.takeWhile_append_dropWhile
  generalize hbehind : (trim line).dropWhile (!isBlank ·) = behind at hcut
  have hgap : behind.takeWhile isBlank ++ trimStart behind = behind :=
    List.takeWhile_append_dropWhile
  refine ⟨(trim line).takeWhile (!isBlank ·), trimStart behind, ?_, ?_, ?_,
    before, behind.takeWhile isBlank, after, hbefore, hall _ _, hafter, ?_, ?_⟩
  · simp [ha, hfirst]
  · intro c hc
    simpa using hall _ _ c hc
  · exact trim_trimStart_of_append (hcut.symm ▸ trim_trim)
  · -- what is left behind the word begins with a blank
    intro hrest hnil
    cases behind with
    | nil => exact hrest rfl
    | cons b u =>
      have hb := List.head_dropWhile_not (!isBlank ·) (l := trim line) (by simp [hbehind])
      have hb' : isBlank b = true := by simpa [hbehind] using hb
      simp [hb'] at hnil
  · have hparts : (trim line).takeWhile (!isBlank ·) ++
        (behind.takeWhile isBlank ++ trimStart behind) = trim line := by rw [hgap, hcut]
    conv => lhs; rw [hline, ← hparts]
    simp

/-! ### The first of the words -/

theorem opensBlank_of_isBlank (h : IsBlank t) : opensBlank t = true := by
  cases t with
  | nil => rfl
  | cons c t => exact h c List.mem_cons_self

theorem endsBlank_of_isBlank (h : IsBlank t) : endsBlank t = true := by
  rw [endsBlank]
  cases hlast : t.getLast? with
  | none => rfl
  | some c => exact h c (List.mem_of_getLast? hlast)

/-- A text without blanks that has nothing but blanks before it, and a blank or nothing behind it,
is the first word. -/
theorem head?_words_of_parts {before behind : Text} (hbefore : IsBlank before) (hne : word ≠ [])
    (hsolid : ∀ c ∈ word, isBlank c = false) (hbehind : opensBlank behind = true) :
    (words (before ++ (word ++ behind))).head? = some word := by
  rw [words_append_of_endsBlank (endsBlank_of_isBlank hbefore), words_of_isBlank hbefore,
    words_append_of_opensBlank hbehind, words_of_forall hsolid hne]
  rfl

/-- What stands before and behind the word that a line begins with. -/
theorem Begins.exists_parts (h : Begins word rest line) : ∃ before behind, IsBlank before ∧
    opensBlank behind = true ∧ line = before ++ (word ++ behind) := by
  obtain ⟨before, gap, after, hbefore, hgap, hafter, hne, hline⟩ := h.placed
  refine ⟨before, gap ++ (rest ++ after), hbefore, ?_, hline⟩
  cases gap with
  | nil =>
    have hrest : rest = [] := Decidable.not_not.1 fun hr => hne hr rfl
    rw [hrest]
    exact opensBlank_of_isBlank hafter
  | cons a gap => exact hgap a List.mem_cons_self

/-- The line begins with the first of its words. -/
theorem Begins.head?_words (h : Begins word rest line) : (words line).head? = some word := by
  obtain ⟨before, behind, hbefore, hbehind, rfl⟩ := h.exists_parts
  exact head?_words_of_parts hbefore h.ne_nil h.solid hbehind

end Text

end BuildCards
