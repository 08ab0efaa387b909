import BuildCards.Text.Basic

/-!
# Searching in a text

Fixed texts at the start, at the end, or anywhere in a text.  `Text.afterStart?` and
`Text.beforeEnd?` give what is left when a fixed start or end is taken off, `Text.contains` asks
whether a text occurs, and `Text.removeFirst` takes its first occurrence out.
-/

namespace BuildCards

namespace Text

variable {pattern t before rest : Text}

/-- What follows `pattern` in a text that begins with it. -/
def afterStart? (pattern t : Text) : Option Text := pattern.isPrefixOf? t

theorem afterStart?_nil : afterStart? [] t = some t := by cases t <;> rfl

theorem afterStart?_cons_nil (c : Char) : afterStart? (c :: pattern) [] = none := rfl

theorem afterStart?_cons_cons (c d : Char) : afterStart? (c :: pattern) (d :: t) =
    if c == d then afterStart? pattern t else none := rfl

theorem afterStart?_eq_some_iff : afterStart? pattern t = some rest ↔ t = pattern ++ rest := by
  induction pattern generalizing t with
  | nil => simp [afterStart?_nil]
  | cons c p ih =>
    cases t with
    | nil => simp [afterStart?_cons_nil]
    | cons d u =>
      by_cases h : c = d
      · subst h
        simpa [afterStart?_cons_cons] using ih
      · simp [afterStart?_cons_cons, h, Ne.symm h]

@[simp] theorem afterStart?_append : afterStart? pattern (pattern ++ rest) = some rest :=
  afterStart?_eq_some_iff.2 rfl

theorem afterStart?_eq_none_iff : afterStart? pattern t = none ↔ ¬ pattern <+: t := by
  rw [Option.eq_none_iff_forall_ne_some]
  constructor
  · rintro h ⟨rest, htext⟩
    exact h rest (afterStart?_eq_some_iff.2 htext.symm)
  · intro h rest hrest
    exact h ⟨rest, (afterStart?_eq_some_iff.1 hrest).symm⟩

/-- One more character at the end is left over if `pattern` does not hold it. -/
theorem afterStart?_concat {c : Char} (hc : c ∉ pattern) (t : Text) :
    afterStart? pattern (t ++ [c]) = (afterStart? pattern t).map (· ++ [c]) := by
  induction pattern generalizing t with
  | nil => simp [afterStart?_nil]
  | cons d pattern ih =>
    rw [List.mem_cons, not_or] at hc
    cases t with
    | nil =>
      rw [List.nil_append, afterStart?_cons_cons, if_neg (by simpa using Ne.symm hc.1)]
      rfl
    | cons a t =>
      rw [List.cons_append, afterStart?_cons_cons, afterStart?_cons_cons]
      split
      · exact ih hc.2 t
      · rfl

/-- What precedes `pattern` in a text that ends with it. -/
def beforeEnd? (pattern t : Text) : Option Text := pattern.isSuffixOf? t

theorem beforeEnd?_eq_some_iff : beforeEnd? pattern t = some rest ↔ t = rest ++ pattern := by
  have hreverse : beforeEnd? pattern t =
      (afterStart? pattern.reverse t.reverse).map List.reverse := rfl
  rw [hreverse, Option.map_eq_some_iff]
  simp only [afterStart?_eq_some_iff]
  constructor
  · rintro ⟨u, hu, rfl⟩
    simpa using congrArg List.reverse hu
  · rintro rfl
    exact ⟨rest.reverse, by simp, by simp⟩

@[simp] theorem beforeEnd?_append : beforeEnd? pattern (rest ++ pattern) = some rest :=
  beforeEnd?_eq_some_iff.2 rfl

/-- The text without `pattern` at its start, if it is there; it is taken off once. -/
def dropStart (pattern t : Text) : Text := (afterStart? pattern t).getD t

/-- The text without `pattern` at its end, if it is there; it is taken off once. -/
def dropFinish (pattern t : Text) : Text := (beforeEnd? pattern t).getD t

/-- The text holds `pattern`. -/
def contains (pattern : Text) : Text → Bool
  | [] => pattern.isEmpty
  | c :: t => pattern.isPrefixOf (c :: t) || contains pattern t

theorem contains_iff : contains pattern t = true ↔ pattern <:+: t := by
  induction t with
  | nil => simp [contains]
  | cons c t ih => simp [contains, ih, List.infix_cons_iff]

/-- What a text holds between its blanks is all that a trimmed pattern can occur in. -/
theorem contains_trim (hne : pattern ≠ []) (hp : trim pattern = pattern) :
    contains pattern (trim t) = contains pattern t := by
  have hstart : trimStart pattern = pattern := trimStart_of_trim hp
  have hend : trimEnd pattern = pattern := trimEnd_of_trim hp
  have hblank : ¬ IsBlank pattern := fun h => hne (hp ▸ trim_eq_nil_iff.2 h)
  rw [Bool.eq_iff_iff, contains_iff, contains_iff]
  refine ⟨fun h => h.trans (trim_isInfix t), ?_⟩
  rintro ⟨u, v, rfl⟩
  -- the occurrence is kept when the start is trimmed, and then when the end is
  have hstart' : ∃ u', trimStart (u ++ pattern ++ v) = u' ++ pattern ++ v := by
    by_cases hu : IsBlank u
    · refine ⟨[], ?_⟩
      rw [List.append_assoc, trimStart_append_of_isBlank hu, trimStart_append hblank, hstart]
      rfl
    · exact ⟨trimStart u, by rw [List.append_assoc, trimStart_append hu, List.append_assoc]⟩
  obtain ⟨u', hu'⟩ := hstart'
  rw [trim, hu']
  by_cases hv : IsBlank v
  · refine ⟨u', [], ?_⟩
    rw [trimEnd_append_of_isBlank hv, trimEnd_append hblank, hend, List.append_nil]
  · exact ⟨u', trimEnd v, by rw [trimEnd_append hv]⟩

/-- The text without the first occurrence of `pattern`, a text that is not empty. -/
def removeFirst (pattern : Text) : Text → Text
  | [] => []
  | c :: t =>
    match afterStart? pattern (c :: t) with
    | some rest => rest
    | none => c :: removeFirst pattern t

theorem removeFirst_cons_of_not_isPrefix {c : Char} (h : ¬ pattern <+: c :: t) :
    removeFirst pattern (c :: t) = c :: removeFirst pattern t := by
  rw [removeFirst, afterStart?_eq_none_iff.2 h]

/-- What is taken out stands where there is no earlier place for it. -/
theorem removeFirst_append (hne : pattern ≠ []) (hfirst : ∀ u v,
    before ++ (pattern ++ rest) = u ++ (pattern ++ v) → before.length ≤ u.length) :
    removeFirst pattern (before ++ (pattern ++ rest)) = before ++ rest := by
  induction before with
  | nil =>
    obtain ⟨c, p, rfl⟩ := List.exists_cons_of_ne_nil hne
    have hafter : afterStart? (c :: p) (c :: (p ++ rest)) = some rest := afterStart?_append
    rw [List.nil_append, List.cons_append, removeFirst, hafter]
    rfl
  | cons c before ih =>
    have hlater : ¬ pattern <+: c :: (before ++ (pattern ++ rest)) := by
      rintro ⟨v, htext⟩
      have hlen := hfirst [] v htext.symm
      simp at hlen
    rw [List.cons_append, removeFirst_cons_of_not_isPrefix hlater, List.cons_append]
    refine congrArg (c :: ·) (ih fun u v huv => ?_)
    have hlen := hfirst (c :: u) v (by rw [List.cons_append, List.cons_append, huv])
    simpa using hlen

theorem removeFirst_eq_self (h : ¬ pattern <:+: t) : removeFirst pattern t = t := by
  induction t with
  | nil => rfl
  | cons c t ih =>
    rw [List.infix_cons_iff, not_or] at h
    rw [removeFirst_cons_of_not_isPrefix h.1, ih h.2]

end Text

end BuildCards
