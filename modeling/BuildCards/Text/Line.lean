import BuildCards.Text.Search

/-!
# Lines

A line feed ends a line, and a carriage return right before it belongs to the ending.  What
follows the last line feed is a line only if it is not empty, and keeps its carriage returns.
`Text.lines` cuts a text into lines and `Text.joinLines` puts line feeds between them.  A text is
cut independently on both sides of a line feed (`Text.lines_append_newline`).
-/

namespace BuildCards

namespace Text

/-- The line without one carriage return at its end. -/
def dropReturn (line : Text) : Text := dropFinish ['\x0d'] line

/-- The pieces between line feeds as lines: all but the last were ended by a line feed. -/
def linesOfPieces : List Text → List Text
  | [] => []
  | [last] => if last.isEmpty then [] else [last]
  | line :: next :: rest => dropReturn line :: linesOfPieces (next :: rest)

/-- The lines of a text, without their endings. -/
def lines (t : Text) : List Text := linesOfPieces (t.splitOn '\n')

/-- The lines with a line feed between each two. -/
def joinLines (ls : List Text) : Text := ['\n'].intercalate ls

theorem lines_nil : lines [] = [] := by simp [lines, linesOfPieces]

theorem linesOfPieces_append {p q : List Text} (hq : q ≠ []) :
    linesOfPieces (p ++ q) = p.map dropReturn ++ linesOfPieces q := by
  induction p with
  | nil => rfl
  | cons l p ih =>
    cases h : p ++ q with
    | nil => simp_all
    | cons m rest =>
      rw [List.cons_append, h, linesOfPieces, ← h, ih]
      rfl

/-- Leaving out lines is leaving out pieces. -/
theorem drop_linesOfPieces (n : Nat) (ps : List Text) :
    (linesOfPieces ps).drop n = linesOfPieces (ps.drop n) := by
  induction n generalizing ps with
  | zero => rfl
  | succ n ih =>
    match ps with
    | [] => rfl
    | [p] =>
      by_cases hp : p = [] <;> simp [linesOfPieces, hp]
    | p :: q :: ps => exact ih (q :: ps)

/-- What stands before a line feed is in lines of its own. -/
theorem lines_append_newline (t u : Text) :
    lines (t ++ '\n' :: u) = (t.splitOn '\n').map dropReturn ++ lines u := by
  rw [lines, List.splitOn, List.splitOnP_append_cons _ _ (by rfl)]
  exact linesOfPieces_append (List.splitOnP_ne_nil _ _)

/-! ### Carriage returns -/

/-- Dropping a carriage return does so, or there is none at the end. -/
theorem dropReturn_cases (l : Text) : l = dropReturn l ++ ['\x0d'] ∨ dropReturn l = l := by
  unfold dropReturn dropFinish
  cases h : beforeEnd? ['\x0d'] l with
  | none => exact .inr rfl
  | some u => exact .inl (beforeEnd?_eq_some_iff.1 h)

theorem dropReturn_isInfix (l : Text) : dropReturn l <:+: l := by
  rcases dropReturn_cases l with h | h
  · conv => rhs; rw [h]
    exact (List.prefix_append _ _).isInfix
  · exact ⟨[], [], by simpa using h⟩

theorem dropReturn_concat (l : Text) : dropReturn (l ++ ['\x0d']) = l := by
  rw [dropReturn, dropFinish, beforeEnd?_append]
  rfl

/-- A character before the line is kept, unless the line is empty and the character a carriage
return. -/
theorem dropReturn_cons {c : Char} {t : Text} (h : ¬ (c = '\x0d' ∧ t = [])) :
    dropReturn (c :: t) = c :: dropReturn t := by
  rcases dropReturn_cases t with ht | ht
  · have happ : c :: t = (c :: dropReturn t) ++ ['\x0d'] := by
      rw [List.cons_append, ← ht]
    conv => lhs; rw [happ]
    exact dropReturn_concat _
  · rw [ht]
    rcases dropReturn_cases (c :: t) with hc | hc
    · -- a carriage return at the end would be one of the rest
      cases hd : dropReturn (c :: t) with
      | nil =>
        rw [hd, List.nil_append, List.cons.injEq] at hc
        exact absurd hc h
      | cons d u =>
        rw [hd, List.cons_append, List.cons.injEq] at hc
        have hlen := congrArg List.length ht
        rw [hc.2, dropReturn_concat, List.length_append, List.length_singleton] at hlen
        omega
    · exact hc

theorem trim_dropReturn (l : Text) : trim (dropReturn l) = trim l := by
  rcases dropReturn_cases l with h | h
  · conv => rhs; rw [h]
    exact (trim_append_of_isBlank (by decide)).symm
  · rw [h]

theorem isBlank_dropReturn {l : Text} : IsBlank (dropReturn l) ↔ IsBlank l := by
  rw [← isBlank_trim, trim_dropReturn, isBlank_trim]

theorem dropReturn_eq_self {l : Text} (h : trimEnd l = l) : dropReturn l = l := by
  rcases dropReturn_cases l with hl | hl
  · have hend : trimEnd l = trimEnd (dropReturn l) := by
      conv => lhs; rw [hl]
      exact trimEnd_append_of_isBlank (by decide)
    -- the text would be as long as a part of it
    have hle : (trimEnd (dropReturn l)).length ≤ (dropReturn l).length :=
      (trimEnd_isPrefix _).length_le
    have hlen := congrArg List.length hl
    rw [← hend, h] at hle
    simp only [List.length_append, List.length_cons, List.length_nil] at hlen
    omega
  · exact hl

/-! ### Cutting what was put together -/

theorem map_dropReturn_eq_self {ls : List Text} (h : ∀ l ∈ ls, trimEnd l = l) :
    ls.map dropReturn = ls :=
  (List.map_congr_left fun l hl => dropReturn_eq_self (h l hl)).trans (List.map_id' ls)

/-- The first piece of a text begins as the text does. -/
theorem exists_splitOn_cons {c : Char} (hc : c ≠ '\n') (t : Text) :
    ∃ p ps, (c :: t).splitOn '\n' = (c :: p) :: ps := by
  obtain ⟨p, ps, hp⟩ := List.exists_cons_of_ne_nil (List.splitOn_ne_nil '\n' t)
  refine ⟨p, ps, ?_⟩
  rw [List.splitOn_cons_eq_if_modifyHead, if_neg (by simpa using hc), hp]
  rfl

/-- A character that ends no line is read at the start of the first line. -/
theorem lines_cons {c : Char} (hr : c ≠ '\x0d') (hn : c ≠ '\n') (t : Text) :
    lines (c :: t) = (c :: (lines t).headD []) :: (lines t).tail := by
  obtain ⟨p, ps, hp⟩ := List.exists_cons_of_ne_nil (List.splitOn_ne_nil '\n' t)
  rw [lines, lines, List.splitOn_cons_eq_if_modifyHead, if_neg (by simpa using hn), hp,
    List.modifyHead_cons]
  cases ps with
  | nil => by_cases hnil : p = [] <;> simp [linesOfPieces, hnil]
  | cons q ps =>
    have hcons : dropReturn (c :: p) = c :: dropReturn p := dropReturn_cons fun h => hr h.1
    rw [linesOfPieces, linesOfPieces, hcons]
    rfl

theorem exists_dropReturn_cons {c : Char} (hc : c ≠ '\x0d') (t : Text) :
    ∃ u, dropReturn (c :: t) = c :: u := by
  rcases dropReturn_cases (c :: t) with h | h
  · cases hd : dropReturn (c :: t) with
    | nil =>
      rw [hd, List.nil_append, List.cons.injEq] at h
      exact absurd h.1 hc
    | cons d u =>
      rw [hd, List.cons_append, List.cons.injEq] at h
      exact ⟨u, by rw [h.1]⟩
  · exact ⟨t, h⟩

theorem newline_notMem_of_mem_splitOn {t l : Text} (h : l ∈ t.splitOn '\n') : '\n' ∉ l := by
  induction t generalizing l with
  | nil =>
    rw [List.splitOn_nil, List.mem_singleton] at h
    simp [h]
  | cons c t ih =>
    rw [List.splitOn_cons_eq_if_modifyHead] at h
    split at h
    · rcases List.mem_cons.1 h with rfl | h
      · simp
      · exact ih h
    next hc =>
      cases hs : t.splitOn '\n' with
      | nil => exact absurd hs (List.splitOn_ne_nil _ _)
      | cons p ps =>
        rw [hs, List.modifyHead_cons] at h
        rcases List.mem_cons.1 h with rfl | h
        · have hp := ih (l := p) (by rw [hs]; exact List.mem_cons_self)
          have hne : c ≠ '\n' := fun e => hc (by simp [e])
          simp [hp, Ne.symm hne]
        · exact ih (by rw [hs]; exact List.mem_cons_of_mem _ h)

theorem newline_notMem_of_mem_lines {t l : Text} (h : l ∈ lines t) : '\n' ∉ l := by
  have hpieces {ps : List Text} (hps : ∀ p ∈ ps, '\n' ∉ p) : ∀ l ∈ linesOfPieces ps, '\n' ∉ l := by
    induction ps with
    | nil => simp [linesOfPieces]
    | cons p ps ih =>
      have hp := hps p List.mem_cons_self
      cases ps with
      | nil => by_cases hnil : p = [] <;> simp [linesOfPieces, hnil, hp]
      | cons q ps =>
        intro l hl
        rw [linesOfPieces] at hl
        rcases List.mem_cons.1 hl with rfl | hl
        · rcases dropReturn_cases p with hr | hr
          · rw [hr] at hp
            exact fun hm => hp (List.mem_append_left _ hm)
          · rwa [hr]
        · exact ih (fun r hr => hps r (List.mem_cons_of_mem _ hr)) l hl
  exact hpieces (fun _ hp => newline_notMem_of_mem_splitOn hp) l h

theorem joinLines_splitOn (t : Text) : joinLines (t.splitOn '\n') = t :=
  List.intercalate_splitOn _

/-- Only the empty text has no lines. -/
theorem lines_eq_nil_iff {t : Text} : lines t = [] ↔ t = [] := by
  refine ⟨fun h => ?_, fun h => h ▸ lines_nil⟩
  rw [lines] at h
  rw [← joinLines_splitOn t]
  rcases hpieces : t.splitOn '\n' with _ | ⟨p, _ | ⟨q, ps⟩⟩ <;> rw [hpieces] at h
  · rfl
  · have hp : p = [] := by simpa [linesOfPieces] using h
    rw [hp]
    rfl
  · exact absurd h (List.cons_ne_nil _ _)

theorem joinLines_cons {l : Text} {ls : List Text} (h : ls ≠ []) :
    joinLines (l :: ls) = l ++ '\n' :: joinLines ls := by
  rw [joinLines, List.intercalate_cons_of_ne_nil h]
  simp [joinLines]

theorem splitOn_newline_append (t u : Text) :
    (t ++ '\n' :: u).splitOn '\n' = t.splitOn '\n' ++ u.splitOn '\n' :=
  List.splitOn_append_cons_self t u

/-- A text has one piece more than line feeds. -/
theorem length_splitOn_newline (t : Text) : (t.splitOn '\n').length = t.count '\n' + 1 := by
  induction t with
  | nil => rfl
  | cons c t ih =>
    rw [List.splitOn_cons_eq_if_modifyHead, List.count_cons]
    split <;> simp [ih]

/-- The pieces of texts that were put together are the pieces of each. -/
theorem splitOn_joinLines {ls : List Text} (h : ls ≠ []) :
    (joinLines ls).splitOn '\n' = ls.flatMap (·.splitOn '\n') := by
  induction ls with
  | nil => exact absurd rfl h
  | cons l ls ih =>
    by_cases hls : ls = []
    · subst hls
      simp [joinLines]
    · rw [joinLines_cons hls, splitOn_newline_append, ih hls, List.flatMap_cons]

theorem flatMap_splitOn_of_notMem {ls : List Text} (h : ∀ l ∈ ls, '\n' ∉ l) :
    ls.flatMap (·.splitOn '\n') = ls := by
  induction ls with
  | nil => rfl
  | cons l ls ih =>
    have hl := List.splitOn_eq_singleton (h l List.mem_cons_self)
    rw [List.flatMap_cons, hl, ih fun m hm => h m (List.mem_cons_of_mem _ hm)]
    rfl

theorem length_le_length_flatMap_splitOn (ls : List Text) :
    ls.length ≤ (ls.flatMap (·.splitOn '\n')).length := by
  induction ls with
  | nil => exact Nat.le_refl _
  | cons l ls ih =>
    have hl : 0 < (l.splitOn '\n').length := List.length_pos_iff.2 (List.splitOn_ne_nil _ _)
    rw [List.flatMap_cons, List.length_append, List.length_cons]
    omega

/-- Texts have as many pieces as there are texts only if none of them holds a line feed. -/
theorem notMem_of_length_flatMap_splitOn {ls : List Text}
    (h : (ls.flatMap (·.splitOn '\n')).length = ls.length) : ∀ l ∈ ls, '\n' ∉ l := by
  induction ls with
  | nil => simp
  | cons l ls ih =>
    have hl : 0 < (l.splitOn '\n').length := List.length_pos_iff.2 (List.splitOn_ne_nil _ _)
    have hls := length_le_length_flatMap_splitOn ls
    rw [List.flatMap_cons, List.length_append, List.length_cons] at h
    have hone : (l.splitOn '\n').length = 1 := by omega
    obtain ⟨p, hp⟩ := List.length_eq_one_iff.1 hone
    have hjoin := joinLines_splitOn l
    rw [hp] at hjoin
    -- the only piece is the text itself
    have hpl : p = l := by simpa [joinLines] using hjoin
    refine List.forall_mem_cons.2 ⟨?_, ih (by omega)⟩
    exact newline_notMem_of_mem_splitOn (t := l) (by rw [hp, hpl]; exact List.mem_singleton_self _)

/-- An empty last piece is no line. -/
theorem linesOfPieces_concat_nil (ls : List Text) :
    linesOfPieces (ls ++ [[]]) = ls.map dropReturn := by
  rw [linesOfPieces_append (List.cons_ne_nil _ _)]
  simp [linesOfPieces]

theorem linesOfPieces_concat {ls : List Text} {l : Text} (h : l ≠ []) :
    linesOfPieces (ls ++ [l]) = ls.map dropReturn ++ [l] := by
  rw [linesOfPieces_append (List.cons_ne_nil _ _)]
  simp [linesOfPieces, h]

end Text

end BuildCards
