import BuildCards.Bootstrap
import BuildCards.Proofs.CommandText
import BuildCards.Text.Line

/-!
# The former name of the bootstrap script

`Bootstrap.migrate` replaces the former name of the script in a line.  Here it is proved that

* a line without the former name is left alone (`Bootstrap.migrate_eq_self`),
* no line holds the former name afterwards (`Bootstrap.holdsFormerName_migrate`),
* no character that is foreign to the former name can be a part of it, so that the parts of a line
  on both sides of such a character are migrated on their own (`Bootstrap.migrate_append_cons`).

The second needs an argument: taking the former name out could bring its ends together to form it
anew.  It does not, because what is put in begins with a letter that the former name does not have,
and has no letter that the former name begins with.
-/

namespace BuildCards

namespace Bootstrap

/-- The former name occurs in the text, in any case of its letters. -/
def holdsFormerName : Text → Bool
  | [] => false
  | c :: t => beginsWith formerName (c :: t) || holdsFormerName t

/-- No letter of the former name can stand for the character. -/
def Foreign (c : Char) : Prop := ∀ l ∈ formerName, sameLetter l c = false

instance (c : Char) : Decidable (Foreign c) :=
  List.decidableBAll (fun l => sameLetter l c = false) formerName

variable {word t u v : Text} {c : Char}

/-! ### Words -/

theorem beginsWith_append (h : beginsWith word t = true) : beginsWith word (t ++ v) = true := by
  induction word generalizing t with
  | nil => simp [beginsWith]
  | cons l word ih =>
    cases t with
    | nil => simp [beginsWith] at h
    | cons a t =>
      simp only [beginsWith, Bool.and_eq_true] at h
      simp only [List.cons_append, beginsWith, Bool.and_eq_true]
      exact ⟨h.1, ih h.2⟩

theorem length_le_of_beginsWith (h : beginsWith word t = true) : word.length ≤ t.length := by
  induction word generalizing t with
  | nil => exact Nat.zero_le _
  | cons l word ih =>
    cases t with
    | nil => simp [beginsWith] at h
    | cons a t =>
      simp only [beginsWith, Bool.and_eq_true] at h
      exact Nat.succ_le_succ (ih h.2)

/-- A word cannot go past a character that none of its letters stands for. -/
theorem beginsWith_append_cons (hc : ∀ l ∈ word, sameLetter l c = false) :
    beginsWith word (u ++ c :: v) = beginsWith word u := by
  induction word generalizing u with
  | nil => simp [beginsWith]
  | cons l word ih =>
    cases u with
    | nil => simp [beginsWith, hc l List.mem_cons_self]
    | cons a u =>
      simp only [List.cons_append, beginsWith]
      rw [ih fun m hm => hc m (List.mem_cons_of_mem _ hm)]

/-! ### Where the former name occurs -/

theorem holdsFormerName_append_left (h : holdsFormerName t = true) :
    holdsFormerName (t ++ v) = true := by
  induction t with
  | nil => simp [holdsFormerName] at h
  | cons a t ih =>
    simp only [holdsFormerName, Bool.or_eq_true] at h
    simp only [List.cons_append, holdsFormerName, Bool.or_eq_true]
    rcases h with h | h
    · exact .inl (beginsWith_append h)
    · exact .inr (ih h)

theorem holdsFormerName_append_right (h : holdsFormerName t = true) :
    holdsFormerName (u ++ t) = true := by
  induction u with
  | nil => exact h
  | cons a u ih => simp [holdsFormerName, ih]

theorem holdsFormerName_of_infix (ht : t <:+: u) (h : holdsFormerName u = false) :
    holdsFormerName t = false := by
  obtain ⟨v, w, rfl⟩ := ht
  refine Bool.eq_false_iff.2 fun h' => Bool.eq_false_iff.1 h ?_
  exact holdsFormerName_append_left (holdsFormerName_append_right h')

theorem holdsFormerName_append_cons (hc : Foreign c) :
    holdsFormerName (u ++ c :: v) = (holdsFormerName u || holdsFormerName v) := by
  induction u with
  | nil =>
    have hb : beginsWith formerName (c :: v) = false := beginsWith_append_cons (u := []) hc
    simp [holdsFormerName, hb]
  | cons a u ih =>
    have hb : beginsWith formerName (a :: (u ++ c :: v)) = beginsWith formerName (a :: u) :=
      beginsWith_append_cons (u := a :: u) hc
    simp only [List.cons_append, holdsFormerName, hb, ih, Bool.or_assoc]

/-! ### Migration -/

/-- A line without the former name is left alone. -/
theorem migrate_eq_self (h : holdsFormerName t = false) : migrate t = t := by
  induction t with
  | nil => rfl
  | cons a t ih =>
    simp only [holdsFormerName, Bool.or_eq_false_iff] at h
    have hstep : migrate (a :: t) = a :: migrate t := by simp [migrate, migrateAfter, h.1]
    rw [hstep, ih h.2]

theorem map_migrate_eq_self {ls : List Text} (h : ∀ l ∈ ls, holdsFormerName l = false) :
    ls.map migrate = ls :=
  (List.map_congr_left fun l hl => migrate_eq_self (h l hl)).trans (List.map_id' ls)

/-- What is put in begins with a letter that the former name does not have, so a word of its letters
that begins the migrated text was there before. -/
theorem beginsWith_of_migrateAfter (hw : ∀ l ∈ word, sameLetter l 'f' = false)
    (h : beginsWith word (migrateAfter 0 t) = true) : beginsWith word t = true := by
  induction word generalizing t with
  | nil => simp [beginsWith]
  | cons l word ih =>
    cases t with
    | nil => exact h
    | cons a t =>
      by_cases ha : beginsWith formerName (a :: t) = true
      · have hscript : scriptName = 'f' :: "ind_and_replace.sh".toList := rfl
        simp [migrateAfter, ha, hscript, beginsWith, hw l List.mem_cons_self] at h
      · simp only [migrateAfter, ha, Bool.false_eq_true, ↓reduceIte, beginsWith,
          Bool.and_eq_true] at h
        simp only [beginsWith, Bool.and_eq_true]
        exact ⟨h.1, ih (fun m hm => hw m (List.mem_cons_of_mem _ hm)) h.2⟩

/-- Text with no letter that the former name begins with does not add an occurrence. -/
theorem holdsFormerName_append_of_all (hu : u.all (!sameLetter 't' ·) = true) :
    holdsFormerName (u ++ v) = holdsFormerName v := by
  induction u with
  | nil => rfl
  | cons a u ih =>
    rw [List.all_cons, Bool.and_eq_true, Bool.not_eq_true'] at hu
    have hformer : formerName = 't' :: "ranslation_rules.sh".toList := rfl
    have hb : beginsWith formerName (a :: (u ++ v)) = false := by
      simp [hformer, beginsWith, hu.1]
    rw [List.cons_append, holdsFormerName, hb, Bool.false_or]
    exact ih hu.2

theorem holdsFormerName_migrateAfter (skip : Nat) (t : Text) :
    holdsFormerName (migrateAfter skip t) = false := by
  induction t generalizing skip with
  | nil => cases skip <;> rfl
  | cons a t ih =>
    match skip with
    | skip + 1 => exact ih skip
    | 0 =>
      by_cases ha : beginsWith formerName (a :: t) = true
      · rw [migrateAfter, if_pos ha, holdsFormerName_append_of_all (by decide)]
        exact ih _
      · rw [migrateAfter, if_neg ha, holdsFormerName, ih, Bool.or_false]
        -- an occurrence at the start would have been there before
        refine Bool.eq_false_iff.2 fun hb => ?_
        have hstep : a :: migrateAfter 0 t = migrateAfter 0 (a :: t) := by
          rw [migrateAfter, if_neg ha]
        have hf : Foreign 'f' := by decide
        rw [hstep] at hb
        exact ha (beginsWith_of_migrateAfter hf hb)

/-- **No line holds the former name after it has been migrated.** -/
theorem holdsFormerName_migrate (t : Text) : holdsFormerName (migrate t) = false :=
  holdsFormerName_migrateAfter 0 t

/-- A line is changed exactly if it holds the former name. -/
theorem migrate_ne_iff : migrate t ≠ t ↔ holdsFormerName t = true := by
  constructor
  · intro hne
    exact eq_true_of_ne_false fun hclean => hne (migrate_eq_self hclean)
  · intro hholds heq
    have hclean := holdsFormerName_migrate t
    rw [heq, hholds] at hclean
    simp at hclean

theorem migrateAfter_append_cons (hc : Foreign c) {skip : Nat} (hskip : skip ≤ u.length) :
    migrateAfter skip (u ++ c :: v) = migrateAfter skip u ++ c :: migrateAfter 0 v := by
  induction u generalizing skip with
  | nil =>
    obtain rfl : skip = 0 := Nat.le_zero.1 hskip
    have hb : beginsWith formerName (c :: v) = false := beginsWith_append_cons (u := []) hc
    simp [migrateAfter, hb]
  | cons a u ih =>
    match skip with
    | skip + 1 => exact ih (Nat.le_of_succ_le_succ hskip)
    | 0 =>
      have hb : beginsWith formerName (a :: (u ++ c :: v)) = beginsWith formerName (a :: u) :=
        beginsWith_append_cons (u := a :: u) hc
      by_cases ha : beginsWith formerName (a :: u) = true
      · have hlen := length_le_of_beginsWith ha
        have hu : formerName.length - 1 ≤ u.length := by
          rw [List.length_cons] at hlen
          omega
        simp only [List.cons_append, migrateAfter, hb, ha, ↓reduceIte, ih hu, List.append_assoc]
      · simp only [List.cons_append, migrateAfter, hb, ha, Bool.false_eq_true, ↓reduceIte,
          ih (Nat.zero_le _)]

/-- The parts of a line on both sides of a foreign character are migrated on their own. -/
theorem migrate_append_cons (hc : Foreign c) :
    migrate (u ++ c :: v) = migrate u ++ c :: migrate v :=
  migrateAfter_append_cons hc (Nat.zero_le _)

/-! ### Lines -/

theorem mem_of_mem_migrateAfter {c : Char} {t : Text} {skip : Nat} (h : c ∈ migrateAfter skip t) :
    c ∈ t ∨ c ∈ scriptName := by
  induction t generalizing skip with
  | nil => cases skip <;> simp [migrateAfter] at h
  | cons a t ih =>
    match skip with
    | skip + 1 => exact (ih h).imp_left (List.mem_cons_of_mem _)
    | 0 =>
      by_cases ha : beginsWith formerName (a :: t) = true
      · rw [migrateAfter, if_pos ha] at h
        rcases List.mem_append.1 h with h | h
        · exact .inr h
        · exact (ih h).imp_left (List.mem_cons_of_mem _)
      · rw [migrateAfter, if_neg ha] at h
        rcases List.mem_cons.1 h with rfl | h
        · exact .inl List.mem_cons_self
        · exact (ih h).imp_left (List.mem_cons_of_mem _)

theorem newline_notMem_migrate {t : Text} (h : '\n' ∉ t) : '\n' ∉ migrate t := by
  intro hm
  rcases mem_of_mem_migrateAfter hm with hm | hm
  · exact h hm
  · exact absurd hm (by decide)

/-- A carriage return has no part in the migration of a line. -/
theorem trim_migrate_dropReturn (l : Text) :
    Text.trim (migrate (Text.dropReturn l)) = Text.trim (migrate l) := by
  rcases Text.dropReturn_cases l with h | h
  · conv => rhs; rw [h]
    rw [migrate_append_cons (by decide)]
    exact (Text.trim_append_of_isBlank (by decide)).symm
  · rw [h]

/-- Whether lines open with the script is seen between the blanks of the first. -/
theorem opens_congr {ls ms : List Text} (h : ls.map Text.trim = ms.map Text.trim) :
    opens ls = opens ms := by
  have hpattern : Text.trim ("ADD ./".toList ++ scriptName) = "ADD ./".toList ++ scriptName := by
    decide
  cases ls with
  | nil =>
    cases ms with
    | nil => rfl
    | cons m ms => simp at h
  | cons l ls =>
    cases ms with
    | nil => simp at h
    | cons m ms =>
      rw [List.map_cons, List.map_cons, List.cons.injEq] at h
      rw [opens, opens, ← Text.contains_trim (by decide) hpattern, h.1,
        Text.contains_trim (by decide) hpattern]

theorem opens_concat_nil (ls : List Text) : opens (ls ++ [[]]) = opens ls := by
  cases ls with
  | nil => rfl
  | cons l ls => rfl

end Bootstrap

/-! ### Commands -/

namespace Command

/-- The former name stands in the text of a command only if it stands in the body. -/
theorem holdsFormerName_text {c : Command} (h : Bootstrap.holdsFormerName c.body = false) :
    Bootstrap.holdsFormerName c.text = false := by
  by_cases hne : c.text = []
  · rw [hne]
    rfl
  · obtain ⟨i, hi, hb⟩ := exists_instruction hne
    have hkeyword : Bootstrap.holdsFormerName i.keyword = false := by cases i <;> decide
    have hbody : Bootstrap.holdsFormerName (Text.trim c.body) = false :=
      Bootstrap.holdsFormerName_of_infix (Text.trim_isInfix c.body) h
    have hmarker : Bootstrap.holdsFormerName cacheMarker = false := by decide
    rw [text_of_instruction hi hb, Bootstrap.holdsFormerName_append_cons (by decide), hkeyword]
    cases c.cache with
    | false => simpa using hbody
    | true =>
      rw [if_pos rfl, Bootstrap.holdsFormerName_append_cons (by decide), hbody, hmarker]
      rfl

/-- The text of a command that was read from a migrated line does not hold the former name. -/
theorem holdsFormerName_text_of_parse {c : Command} {line : Text}
    (h : parse (Bootstrap.migrate line) = .ok c) : Bootstrap.holdsFormerName c.text = false :=
  holdsFormerName_text (Bootstrap.holdsFormerName_of_infix (body_infix_of_parse h)
    (Bootstrap.holdsFormerName_migrate _))

end Command

end BuildCards
