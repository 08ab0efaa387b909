/-!
# Texts

Text is handled as the list of its characters, so that every rule about it is a recursion on the
data.  This file has what all others use: numbers in decimal digits, runs of characters, and the
characters that are *blank* (the 25 characters with the Unicode property `White_Space`) with the
operations that depend on nothing else:

* `Text.trim`, `Text.trimStart`, `Text.trimEnd` drop blank characters at the ends,
* `Text.IsBlank` holds of a text with no other characters,
* `Text.words` cuts a text at its blank characters.
-/

namespace BuildCards

/-- A text is the list of its characters. -/
abbrev Text := List Char

namespace Text

/-! ### Decimal numbers -/

/-- A natural number in decimal digits. -/
def decimal (n : Nat) : Text := Nat.toDigits 10 n

theorem decimal_inj {m n : Nat} : decimal m = decimal n ↔ m = n := by
  constructor
  · intro h
    have hvalue := congrArg (Nat.ofDigitChars 10 · 0) h
    simpa only [decimal, Nat.ofDigitChars_ten_toDigits] using hvalue
  · rintro rfl
    rfl

/-! ### Runs of characters -/

/-- The character lies in one of the runs of code points, each given by its first and its last. -/
def inRuns (runs : List (Nat × Nat)) (c : Char) : Bool :=
  runs.any fun run => run.1 ≤ c.toNat && c.toNat ≤ run.2

theorem inRuns_iff {runs : List (Nat × Nat)} {c : Char} :
    inRuns runs c = true ↔ ∃ run ∈ runs, run.1 ≤ c.toNat ∧ c.toNat ≤ run.2 := by
  simp [inRuns]

/-! ### Blank characters -/

/-- The characters with the Unicode property `White_Space`. -/
def blanks : List Char :=
  ['\t', '\n', '\x0b', '\x0c', '\x0d', ' ', '\u0085', '\u00a0', '\u1680', '\u2000', '\u2001',
    '\u2002', '\u2003', '\u2004', '\u2005', '\u2006', '\u2007', '\u2008', '\u2009', '\u200a',
    '\u2028', '\u2029', '\u202f', '\u205f', '\u3000']

/-- The character is blank. -/
def isBlank (c : Char) : Bool := blanks.contains c

theorem isBlank_iff {c : Char} : isBlank c = true ↔ c ∈ blanks := by
  simp [isBlank]

/-- The blank characters of the core library are blank here. -/
theorem isBlank_of_isWhitespace {c : Char} (h : c.isWhitespace = true) : isBlank c = true := by
  simp only [Char.isWhitespace, Bool.or_eq_true, decide_eq_true_eq] at h
  rcases h with ((rfl | rfl) | rfl) | rfl <;> decide

/-! ### Dropping blanks at the ends -/

variable (t : Text)

/-- The text without its leading blanks. -/
def trimStart : Text := t.dropWhile isBlank

/-- The text without its trailing blanks. -/
def trimEnd : Text := (t.reverse.dropWhile isBlank).reverse

/-- The text without leading and trailing blanks. -/
def trim : Text := trimEnd (trimStart t)

/-- Every character of the text is blank. -/
def IsBlank : Prop := ∀ c ∈ t, isBlank c = true

-- by name, since a statement about characters might else be decided by going through all of them
instance : Decidable (IsBlank t) := List.decidableBAll (isBlank · = true) t

variable {t}

theorem trimStart_eq_nil_iff : trimStart t = [] ↔ IsBlank t := by
  induction t with
  | nil => simp [trimStart, IsBlank]
  | cons c t ih =>
    by_cases h : isBlank c = true <;> simp_all [trimStart, IsBlank]

theorem trimEnd_eq_nil_iff : trimEnd t = [] ↔ IsBlank t := by
  have h : trimEnd t = (trimStart t.reverse).reverse := rfl
  rw [h, List.reverse_eq_nil_iff, trimStart_eq_nil_iff]
  simp [IsBlank]

theorem isBlank_trimStart : IsBlank (trimStart t) ↔ IsBlank t := by
  induction t with
  | nil => rfl
  | cons c t ih =>
    by_cases h : isBlank c = true
    · have hc : trimStart (c :: t) = trimStart t := by simp [trimStart, h]
      rw [hc, ih]
      simp [IsBlank, h]
    · have hc : trimStart (c :: t) = c :: t := by simp [trimStart, h]
      rw [hc]

theorem trim_eq_nil_iff : trim t = [] ↔ IsBlank t := by
  rw [trim, trimEnd_eq_nil_iff, isBlank_trimStart]

variable {u : Text}

theorem isBlank_append : IsBlank (t ++ u) ↔ IsBlank t ∧ IsBlank u := by
  simp [IsBlank, or_imp, forall_and]

theorem trimStart_append (h : ¬ IsBlank t) : trimStart (t ++ u) = trimStart t ++ u := by
  have hne : trimStart t ≠ [] := fun ht => h (trimStart_eq_nil_iff.1 ht)
  have hne' : (t.dropWhile isBlank).isEmpty = false := by simpa [trimStart] using hne
  rw [trimStart, List.dropWhile_append, hne']
  rfl

theorem trimStart_append_of_isBlank (h : IsBlank t) : trimStart (t ++ u) = trimStart u :=
  List.dropWhile_append_of_pos h

theorem trimEnd_append (h : ¬ IsBlank u) : trimEnd (t ++ u) = t ++ trimEnd u := by
  have hu : ¬ IsBlank u.reverse := by simpa [IsBlank] using h
  have hrev : (trimStart (u.reverse ++ t.reverse)).reverse = t ++ trimEnd u := by
    rw [trimStart_append hu]
    simp [trimEnd, trimStart]
  simpa [trimEnd, trimStart] using hrev

theorem trimEnd_append_of_isBlank (h : IsBlank u) : trimEnd (t ++ u) = trimEnd t := by
  have hu : IsBlank u.reverse := by simpa [IsBlank] using h
  simp only [trimEnd, List.reverse_append]
  rw [List.dropWhile_append_of_pos hu]

theorem trimStart_cons {c : Char} (h : isBlank c = false) : trimStart (c :: t) = c :: t := by
  simp [trimStart, h]

theorem trimStart_cons_of_isBlank {c : Char} (h : isBlank c = true) :
    trimStart (c :: t) = trimStart t := by
  simp [trimStart, h]

theorem trimStart_trimStart : trimStart (trimStart t) = trimStart t := by
  induction t with
  | nil => rfl
  | cons c t ih =>
    by_cases h : isBlank c = true
    · rw [trimStart_cons_of_isBlank h, ih]
    · rw [trimStart_cons (by simpa using h), trimStart_cons (by simpa using h)]

theorem trimEnd_trimEnd : trimEnd (trimEnd t) = trimEnd t := by
  have h := trimStart_trimStart (t := t.reverse)
  simp only [trimStart] at h
  simp [trimEnd, h]

/-- Dropping blanks at one end leaves the other end alone, so the two droppings commute. -/
theorem trim_eq_trimStart_trimEnd : trim t = trimStart (trimEnd t) := by
  induction t with
  | nil => rfl
  | cons c t ih =>
    by_cases hc : isBlank c = true
    · rw [trim, trimStart_cons_of_isBlank hc]
      by_cases ht : IsBlank t
      · have hct : IsBlank (c :: t) := List.forall_mem_cons.2 ⟨hc, ht⟩
        rw [trimEnd_eq_nil_iff.2 hct]
        exact trimEnd_eq_nil_iff.2 (isBlank_trimStart.2 ht)
      · have hend : trimEnd (c :: t) = c :: trimEnd t := trimEnd_append (t := [c]) ht
        rw [hend, trimStart_cons_of_isBlank hc]
        exact ih
    · -- the first character stays, whatever is dropped at the end
      have hc' : isBlank c = false := by simpa using hc
      have hend : ∃ u, trimEnd (c :: t) = c :: u := by
        by_cases ht : IsBlank t
        · have h1 : trimEnd (c :: t) = trimEnd [c] := trimEnd_append_of_isBlank (t := [c]) ht
          exact ⟨[], by rw [h1]; simp [trimEnd, hc]⟩
        · exact ⟨trimEnd t, trimEnd_append (t := [c]) ht⟩
      obtain ⟨u, hu⟩ := hend
      rw [trim, trimStart_cons hc', hu, trimStart_cons hc']

@[simp] theorem trimEnd_trim : trimEnd (trim t) = trim t := trimEnd_trimEnd

@[simp] theorem trimStart_trim : trimStart (trim t) = trim t := by
  rw [trim_eq_trimStart_trimEnd, trimStart_trimStart]

@[simp] theorem trim_trim : trim (trim t) = trim t := by
  rw [trim, trimStart_trim, trimEnd_trim]

theorem trimStart_of_trim (h : trim t = t) : trimStart t = t := by rw [← h, trimStart_trim]

theorem trimEnd_of_trim (h : trim t = t) : trimEnd t = t := by rw [← h, trimEnd_trim]

theorem trim_append_of_isBlank (h : IsBlank u) : trim (t ++ u) = trim t := by
  rw [trim_eq_trimStart_trimEnd, trimEnd_append_of_isBlank h, ← trim_eq_trimStart_trimEnd]

/-- A text that begins and ends with pieces that need no trimming needs none. -/
theorem trim_append_of_trimmed (ht : trimStart t = t) (hu : trimEnd u = u) (hne : t ≠ [])
    (hne' : u ≠ []) : trim (t ++ u) = t ++ u := by
  have hbt : ¬ IsBlank t := fun h => hne (ht ▸ trimStart_eq_nil_iff.2 h)
  have hbu : ¬ IsBlank u := fun h => hne' (hu ▸ trimEnd_eq_nil_iff.2 h)
  rw [trim, trimStart_append hbt, ht, trimEnd_append hbu, hu]

/-- A text is what is left without trailing blanks, and these. -/
theorem exists_trimEnd (t : Text) : ∃ v, IsBlank v ∧ t = trimEnd t ++ v := by
  refine ⟨(t.reverse.takeWhile isBlank).reverse, ?_, ?_⟩
  · intro c hc
    exact List.all_eq_true.1 List.all_takeWhile c (List.mem_reverse.1 hc)
  · rw [trimEnd, ← List.reverse_append, List.takeWhile_append_dropWhile, List.reverse_reverse]

/-- A text is its trimmed part between blanks. -/
theorem exists_trim (t : Text) : ∃ u v, IsBlank u ∧ IsBlank v ∧ t = u ++ trim t ++ v := by
  have hstart : t.takeWhile isBlank ++ trimStart t = t := List.takeWhile_append_dropWhile
  obtain ⟨v, hv, hend⟩ := exists_trimEnd (trimStart t)
  refine ⟨t.takeWhile isBlank, v, ?_, hv, ?_⟩
  · intro c hc
    exact List.all_eq_true.1 List.all_takeWhile c hc
  · rw [trim, List.append_assoc, ← hend, hstart]

theorem trimEnd_isPrefix (t : Text) : trimEnd t <+: t := by
  have hsuffix := List.dropWhile_suffix (l := t.reverse) isBlank
  simpa [trimEnd] using List.reverse_prefix.2 hsuffix

theorem trim_isInfix (t : Text) : trim t <:+: t := by
  obtain ⟨u, v, -, -, h⟩ := exists_trim t
  exact ⟨u, v, h.symm⟩

theorem mem_trim {c : Char} (hb : isBlank c = false) : c ∈ trim t ↔ c ∈ t := by
  constructor
  · exact fun h => (trim_isInfix t).mem h
  · intro h
    obtain ⟨u, v, hu, hv, ht⟩ := exists_trim t
    rw [ht, List.mem_append, List.mem_append] at h
    rcases h with (h | h) | h
    · exact absurd (hu c h) (by simp [hb])
    · exact h
    · exact absurd (hv c h) (by simp [hb])

theorem isBlank_trim : IsBlank (trim t) ↔ IsBlank t := by
  rw [← trim_eq_nil_iff, trim_trim, trim_eq_nil_iff]

/-! ### Words -/

/-- The longest pieces of the text that hold no blank, in order. -/
def words (t : Text) : List Text := (t.splitOnP isBlank).filter (!·.isEmpty)

theorem words_nil : words [] = [] := by simp [words]

/-- The words before and after a blank are found on their own. -/
theorem words_append_cons {c : Char} (h : isBlank c = true) (t u : Text) :
    words (t ++ c :: u) = words t ++ words u := by
  rw [words, List.splitOnP_append_cons _ _ h, List.filter_append, words, words]

/-- The text is empty or begins with a blank. -/
def opensBlank (t : Text) : Bool := t.head?.all isBlank

/-- The text is empty or ends with a blank. -/
def endsBlank (t : Text) : Bool := t.getLast?.all isBlank

theorem words_cons_of_isBlank {c : Char} (hc : isBlank c = true) (t : Text) :
    words (c :: t) = words t := by
  simpa [words_nil] using words_append_cons hc [] t

theorem words_of_isBlank (h : IsBlank t) : words t = [] := by
  induction t with
  | nil => exact words_nil
  | cons c t ih =>
    rw [words_cons_of_isBlank (h c List.mem_cons_self)]
    exact ih fun d hd => h d (List.mem_cons_of_mem c hd)

/-- A text that begins with a blank has its words for itself. -/
theorem words_append_of_opensBlank (h : opensBlank u = true) (t : Text) :
    words (t ++ u) = words t ++ words u := by
  cases u with
  | nil => rw [List.append_nil, words_nil, List.append_nil]
  | cons c u =>
    have hc : isBlank c = true := h
    rw [words_append_cons hc, words_cons_of_isBlank hc]

/-- So does a text that ends with one. -/
theorem words_append_of_endsBlank (h : endsBlank t = true) (u : Text) :
    words (t ++ u) = words t ++ words u := by
  rcases List.eq_nil_or_concat t with rfl | ⟨t, c, rfl⟩
  · rw [List.nil_append, words_nil, List.nil_append]
  · have hc : isBlank c = true := by simpa [endsBlank] using h
    rw [List.concat_eq_append, List.append_assoc, List.singleton_append, words_append_cons hc,
      words_append_cons hc, words_nil, List.append_nil]

theorem words_of_forall {w : Text} (h : ∀ c ∈ w, isBlank c = false) (hne : w ≠ []) :
    words w = [w] := by
  rw [words, List.splitOnP_eq_singleton h]
  simp [hne]

theorem trimEnd_of_forall {w : Text} (h : ∀ c ∈ w, isBlank c = false) : trimEnd w = w := by
  have hdrop {u : Text} (hu : ∀ c ∈ u, isBlank c = false) : u.dropWhile isBlank = u := by
    cases u with
    | nil => rfl
    | cons c u => simp [hu c List.mem_cons_self]
  rw [trimEnd, hdrop fun c hc => h c (List.mem_reverse.1 hc), List.reverse_reverse]

/-- Words with a space between each two need no trimming at the end. -/
theorem trimEnd_intercalate {ws : List Text} (hb : ∀ w ∈ ws, ∀ c ∈ w, isBlank c = false)
    (hne : ∀ w ∈ ws, w ≠ []) : trimEnd ([' '].intercalate ws) = [' '].intercalate ws := by
  induction ws with
  | nil => rfl
  | cons w ws ih =>
    by_cases hws : ws = []
    · subst hws
      simpa using trimEnd_of_forall (hb w List.mem_cons_self)
    · have hb' := fun v hv => hb v (List.mem_cons_of_mem w hv)
      have hne' := fun v hv => hne v (List.mem_cons_of_mem w hv)
      have happ : [' '].intercalate (w :: ws) = (w ++ [' ']) ++ [' '].intercalate ws := by
        rw [List.intercalate_cons_of_ne_nil hws]
      -- the words that follow begin with a character that is not blank
      have hblank : ¬ IsBlank ([' '].intercalate ws) := by
        obtain ⟨v, vs, rfl⟩ := List.exists_cons_of_ne_nil hws
        obtain ⟨c, v', rfl⟩ := List.exists_cons_of_ne_nil (hne' v List.mem_cons_self)
        have hc := hb' (c :: v') List.mem_cons_self c List.mem_cons_self
        intro h
        have hmem : c ∈ [' '].intercalate ((c :: v') :: vs) := by
          cases vs <;> simp [List.intercalate]
        rw [h c hmem] at hc
        exact absurd hc (by decide)
      rw [happ, trimEnd_append hblank, ih hb' hne']

theorem isBlank_of_mem_words {w : Text} {c : Char} (hw : w ∈ words t) (hc : c ∈ w) :
    isBlank c = false := by
  induction t generalizing w with
  | nil => simp [words_nil] at hw
  | cons a t ih =>
    rw [words, List.splitOnP_cons_eq_if_modifyHead] at hw
    by_cases ha : isBlank a = true
    · simp only [ha, ↓reduceIte, List.filter_cons, List.isEmpty_nil, Bool.not_true,
        Bool.false_eq_true] at hw
      exact ih hw hc
    · simp only [ha, Bool.false_eq_true, ↓reduceIte] at hw
      -- the character joins the first piece of the rest
      cases hs : t.splitOnP isBlank with
      | nil => exact absurd hs (List.splitOnP_ne_nil _ _)
      | cons p ps =>
        rw [hs, List.modifyHead_cons, List.mem_filter] at hw
        rcases List.mem_cons.1 hw.1 with rfl | hmem
        · rcases List.mem_cons.1 hc with rfl | hc
          · simpa using ha
          · refine ih (w := p) ?_ hc
            rw [words, hs]
            exact List.mem_filter.2 ⟨List.mem_cons_self, by simpa using List.ne_nil_of_mem hc⟩
        · refine ih (w := w) ?_ hc
          rw [words, hs]
          exact List.mem_filter.2 ⟨List.mem_cons_of_mem _ hmem, hw.2⟩

theorem ne_nil_of_mem_words {w : Text} (hw : w ∈ words t) : w ≠ [] := by
  have := (List.mem_filter.1 hw).2
  simpa using this

/-- Words with a space between each two are cut into just these words. -/
theorem words_intercalate {ws : List Text} (hb : ∀ w ∈ ws, ∀ c ∈ w, isBlank c = false)
    (hne : ∀ w ∈ ws, w ≠ []) : words ([' '].intercalate ws) = ws := by
  induction ws with
  | nil => exact words_nil
  | cons w ws ih =>
    have hw := words_of_forall (hb w List.mem_cons_self) (hne w List.mem_cons_self)
    have ih' := ih (fun v hv => hb v (List.mem_cons_of_mem _ hv))
      (fun v hv => hne v (List.mem_cons_of_mem _ hv))
    by_cases hws : ws = []
    · subst hws
      simpa using hw
    · have happ : [' '].intercalate (w :: ws) = w ++ ' ' :: [' '].intercalate ws := by
        rw [List.intercalate_cons_of_ne_nil hws]
        simp
      rw [happ, words_append_cons (by decide), hw, ih']
      rfl

end Text

end BuildCards
