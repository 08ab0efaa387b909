import BuildCards.Text.Line

/-!
# Carriage returns at the ends of lines

When the lines of a text are put together again, the carriage returns at their ends are lost:
`Text.dropReturns` gives what is left, also without one at the end of the text.  Its pieces are the
lines (`Text.splitOn_dropReturns`).  A carriage return is blank, so what a text holds between its
blanks stays as it was: its words (`Text.words_append_dropReturns`), and what begins it
(`Text.afterStart?_dropReturns`) or occurs in it (`Text.words_removeFirst_dropReturns`).

`Text.withReturns` puts a carriage return before every line feed.  A text without carriage returns
keeps its lines (`Text.lines_withReturns`), and is what is left when they are dropped again
(`Text.dropReturns_withReturns`).
-/

namespace BuildCards

namespace Text

/-- A line ends where the text begins. -/
def atLineEnd (t : Text) : Bool := t.head?.all (· == '\n')

/-- The text without one carriage return at the end of each line. -/
def dropReturns : Text → Text
  | [] => []
  | c :: t => if c = '\x0d' ∧ atLineEnd t = true then dropReturns t else c :: dropReturns t

variable {t u pattern : Text} {c : Char}

theorem eq_nil_or_of_atLineEnd (h : atLineEnd t = true) : t = [] ∨ ∃ u, t = '\n' :: u := by
  cases t with
  | nil => exact .inl rfl
  | cons c u =>
    have hc : c = '\n' := by simpa [atLineEnd] using h
    exact .inr ⟨u, by rw [hc]⟩

/-- The pieces of a text without carriage returns at the ends of lines. -/
theorem splitOn_dropReturns (t : Text) :
    (dropReturns t).splitOn '\n' = (t.splitOn '\n').map dropReturn := by
  induction t with
  | nil => rfl
  | cons c t ih =>
    obtain ⟨p, ps, hpieces⟩ := List.exists_cons_of_ne_nil (List.splitOn_ne_nil '\n' t)
    by_cases hdrop : c = '\x0d' ∧ atLineEnd t = true
    · rw [dropReturns, if_pos hdrop, ih]
      obtain ⟨rfl, hend⟩ := hdrop
      rcases eq_nil_or_of_atLineEnd hend with rfl | ⟨u, rfl⟩
      · rfl
      · simp [List.splitOn_cons_eq_if_modifyHead]
        rfl
    · rw [dropReturns, if_neg hdrop, List.splitOn_cons_eq_if_modifyHead,
        List.splitOn_cons_eq_if_modifyHead, ih, hpieces]
      split
      · rfl
      next hc =>
        have hcons : ¬ (c = '\x0d' ∧ p = []) := by
          rintro ⟨rfl, rfl⟩
          refine hdrop ⟨rfl, ?_⟩
          have hjoin := joinLines_splitOn t
          rw [hpieces] at hjoin
          cases ps with
          | nil => rw [← hjoin]; rfl
          | cons q ps => rw [← hjoin, joinLines_cons (List.cons_ne_nil _ _)]; rfl
        simp [dropReturn_cons hcons]

theorem joinLines_map_dropReturn (t : Text) :
    joinLines ((t.splitOn '\n').map dropReturn) = dropReturns t := by
  rw [← splitOn_dropReturns, joinLines_splitOn]

/-- Nothing but carriage returns is lost. -/
theorem isBlank_dropReturns : IsBlank (dropReturns t) ↔ IsBlank t := by
  induction t with
  | nil => rfl
  | cons c t ih =>
    have hcons (u : Text) : IsBlank (c :: u) ↔ isBlank c = true ∧ IsBlank u := List.forall_mem_cons
    rw [dropReturns, hcons t, ← ih]
    split
    next hdrop =>
      have hc : isBlank c = true := by rw [hdrop.1]; decide
      simp [hc]
    next => exact hcons _

theorem trimStart_dropReturns (t : Text) :
    trimStart (dropReturns t) = dropReturns (trimStart t) := by
  induction t with
  | nil => rfl
  | cons c t ih =>
    by_cases hc : isBlank c = true
    · rw [trimStart_cons_of_isBlank hc, ← ih, dropReturns]
      split
      · rfl
      · exact trimStart_cons_of_isBlank hc
    · have hc' : isBlank c = false := by simpa using hc
      have hreturn : c ≠ '\x0d' := by rintro rfl; exact hc (by decide)
      rw [trimStart_cons hc', dropReturns, if_neg fun h => hreturn h.1, trimStart_cons hc']

/-- A text without ends of lines begins the one text if it begins the other. -/
theorem afterStart?_dropReturns (hr : '\x0d' ∉ pattern) (hn : '\n' ∉ pattern) (t : Text) :
    afterStart? pattern (dropReturns t) = (afterStart? pattern t).map dropReturns := by
  induction pattern generalizing t with
  | nil => simp [afterStart?_nil]
  | cons d pattern ih =>
    rw [List.mem_cons, not_or] at hr hn
    cases t with
    | nil => rfl
    | cons c t =>
      rw [dropReturns]
      split
      next hdrop =>
        -- neither the carriage return nor the line feed behind it begins the pattern
        obtain ⟨rfl, hend⟩ := hdrop
        have hnone : afterStart? (d :: pattern) ('\x0d' :: t) = none := by
          rw [afterStart?_cons_cons, if_neg (by simpa using Ne.symm hr.1)]
        rw [hnone]
        rcases eq_nil_or_of_atLineEnd hend with rfl | ⟨u, rfl⟩
        · rfl
        · have hline : dropReturns ('\n' :: u) = '\n' :: dropReturns u := by simp [dropReturns]
          rw [hline, afterStart?_cons_cons, if_neg (by simpa using Ne.symm hn.1)]
          rfl
      next =>
        rw [afterStart?_cons_cons, afterStart?_cons_cons]
        split
        · exact ih hr.2 hn.2 t
        · rfl

/-- A carriage return at the end of a line separates no words that are not separated anyway. -/
theorem words_append_return (h : atLineEnd t = true) (u : Text) :
    words (u ++ '\x0d' :: t) = words (u ++ t) := by
  rw [words_append_cons (by decide)]
  rcases eq_nil_or_of_atLineEnd h with rfl | ⟨v, rfl⟩
  · rw [words_nil, List.append_nil, List.append_nil]
  · rw [words_append_cons (by decide), words_cons_of_isBlank (by decide)]

theorem words_append_dropReturns (u t : Text) : words (u ++ dropReturns t) = words (u ++ t) := by
  induction t generalizing u with
  | nil => rfl
  | cons c t ih =>
    rw [dropReturns]
    split
    next hdrop => rw [hdrop.1, words_append_return hdrop.2, ih]
    next => simpa using ih (u ++ [c])

theorem removeFirst_cons (hc : c ∉ pattern) (hne : pattern ≠ []) (t : Text) :
    removeFirst pattern (c :: t) = c :: removeFirst pattern t := by
  obtain ⟨d, p, rfl⟩ := List.exists_cons_of_ne_nil hne
  refine removeFirst_cons_of_not_isPrefix fun hstart => ?_
  exact hc (by simp [(List.cons_prefix_cons.1 hstart).1])

/-- What is left without a text that holds no ends of lines has the same words. -/
theorem words_removeFirst_dropReturns (hr : '\x0d' ∉ pattern) (hn : '\n' ∉ pattern)
    (hne : pattern ≠ []) (u t : Text) :
    words (u ++ removeFirst pattern (dropReturns t)) = words (u ++ removeFirst pattern t) := by
  induction t generalizing u with
  | nil => rfl
  | cons c t ih =>
    by_cases hdrop : c = '\x0d' ∧ atLineEnd t = true
    · rw [dropReturns, if_pos hdrop, ih]
      obtain ⟨rfl, hend⟩ := hdrop
      rw [removeFirst_cons hr hne]
      -- the end of the line is left where it is
      have hend' : atLineEnd (removeFirst pattern t) = true := by
        rcases eq_nil_or_of_atLineEnd hend with rfl | ⟨v, rfl⟩
        · rfl
        · rw [removeFirst_cons hn hne]
          rfl
      rw [words_append_return hend']
    · have hafter := afterStart?_dropReturns hr hn (c :: t)
      rw [dropReturns, if_neg hdrop] at hafter ⊢
      rw [removeFirst, removeFirst, hafter]
      cases hrest : afterStart? pattern (c :: t) with
      | some rest => exact words_append_dropReturns u rest
      | none => simpa using ih (u ++ [c])

/-! ### Carriage returns before all line feeds -/

/-- The text with a carriage return before every line feed. -/
def withReturns (t : Text) : Text := t.flatMap fun c => if c = '\n' then ['\x0d', '\n'] else [c]

theorem withReturns_cons_newline (t : Text) :
    withReturns ('\n' :: t) = '\x0d' :: '\n' :: withReturns t := rfl

theorem withReturns_cons (hc : c ≠ '\n') (t : Text) :
    withReturns (c :: t) = c :: withReturns t := by
  simp [withReturns, hc]

theorem withReturns_eq_nil_iff : withReturns t = [] ↔ t = [] := by
  cases t with
  | nil => exact Iff.rfl
  | cons c t =>
    by_cases hc : c = '\n'
    · simp [hc, withReturns_cons_newline]
    · simp [withReturns_cons hc]

/-- The carriage returns that were put in are dropped again. -/
theorem dropReturns_withReturns (h : '\x0d' ∉ t) : dropReturns (withReturns t) = t := by
  induction t with
  | nil => rfl
  | cons c t ih =>
    rw [List.mem_cons, not_or] at h
    have hrest := ih h.2
    by_cases hc : c = '\n'
    · rw [hc, withReturns_cons_newline, dropReturns, if_pos ⟨rfl, rfl⟩, dropReturns,
        if_neg (by simp), hrest]
    · rw [withReturns_cons hc, dropReturns, if_neg fun hdrop => h.1 hdrop.1.symm, hrest]

/-- **Carriage returns at the ends of lines belong to no line.** -/
theorem lines_withReturns (h : '\x0d' ∉ t) : lines (withReturns t) = lines t := by
  induction t with
  | nil => rfl
  | cons c t ih =>
    rw [List.mem_cons, not_or] at h
    have hrest := ih h.2
    by_cases hc : c = '\n'
    · have hempty := lines_append_newline [] t
      have hreturn := lines_append_newline ['\x0d'] (withReturns t)
      rw [List.nil_append] at hempty
      rw [List.singleton_append] at hreturn
      rw [hc, withReturns_cons_newline, hreturn, hempty, hrest]
      rfl
    · rw [withReturns_cons hc, lines_cons (Ne.symm h.1) hc, lines_cons (Ne.symm h.1) hc, hrest]

end Text

end BuildCards
