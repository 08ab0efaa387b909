import BuildCards.AddHeader

/-!
# The forms of a header

A header holds an array of two strings or, if it holds no JSON value at all, two tokens.  The tokens
are found by a reader that goes back when it has gone too far, since a backslash can be the last
character of a token and can also let a blank belong to it.  Here it is told without a reader which
they are.

In a *token* (`AddHeader.IsToken`) a backslash stands right before each blank.  The first token of a
header is the longest one with a space behind it (`AddHeader.IsFirst`), and the second is the
longest one that begins what follows that space (`AddHeader.IsSecond`).

**Main theorem** (`AddHeader.parse_eq_iff_isRead`).  Five rules (`AddHeader.IsRead`) say what a line
is read as or why it is refused, and what the reader does is always what one of them says.
-/

namespace BuildCards

/-- `u` is `t` without one `mark` at its start, or just `t` if that does not begin with one. -/
def Text.Strips (mark t u : Text) : Prop := t = mark ++ u ∨ ¬ mark <+: t ∧ u = t

theorem Text.dropStart_eq_iff {mark t u : Text} : dropStart mark t = u ↔ Strips mark t u := by
  rw [dropStart]
  cases h : afterStart? mark t with
  | some rest =>
    obtain rfl := afterStart?_eq_some_iff.1 h
    simp [Strips]
  | none =>
    have hmark := afterStart?_eq_none_iff.1 h
    constructor
    · rintro rfl
      exact .inr ⟨hmark, rfl⟩
    · rintro (rfl | ⟨-, rfl⟩)
      · exact absurd (List.prefix_append _ _) hmark
      · rfl

namespace AddHeader

variable {escaped : Bool} {c : Char} {t u name rest first second after path line : Text}

/-! ### Tokens -/

/-- A backslash stands right before each blank of the text. -/
def IsToken (t : Text) : Prop :=
  ∀ u c v, t = u ++ c :: v → Text.isBlank c = true → ['\\'] <:+ u

/-- Of the texts that begin with a token and a space behind it, the first token is the longest. -/
structure IsFirst (first after t : Text) : Prop where
  /-- A space stands behind it. -/
  text : t = first ++ ' ' :: after
  /-- It is a token. -/
  token : IsToken first
  /-- No longer token has a space behind it. -/
  longest : ∀ first' after', t = first' ++ ' ' :: after' → IsToken first' →
    first'.length ≤ first.length

/-- The second token is the longest that begins the text. -/
structure IsSecond (second t : Text) : Prop where
  /-- It begins the text. -/
  start : second <+: t
  /-- It is a token. -/
  token : IsToken second
  /-- No longer token begins the text. -/
  longest : ∀ second', second' <+: t → IsToken second' → second'.length ≤ second.length

theorem IsFirst.unique {first' after' : Text} (h : IsFirst first after t)
    (h' : IsFirst first' after' t) : first = first' ∧ after = after' := by
  have hlen : first.length = first'.length :=
    Nat.le_antisymm (h'.longest _ _ h.text h.token) (h.longest _ _ h'.text h'.token)
  obtain ⟨hfirst, hafter⟩ := List.append_inj (h.text.symm.trans h'.text) hlen
  exact ⟨hfirst, (List.cons.inj hafter).2⟩

theorem IsSecond.unique {second' : Text} (h : IsSecond second t) (h' : IsSecond second' t) :
    second = second' := by
  have hlen : second.length = second'.length :=
    Nat.le_antisymm (h'.longest _ h.start h.token) (h.longest _ h'.start h'.token)
  exact (List.prefix_of_prefix_length_le h.start h'.start (Nat.le_of_eq hlen)).eq_of_length hlen

/-! ### Parts of tokens

The readers go through a token and remember whether they have just passed a backslash. -/

/-- The text can end a token: a backslash stands right before each of its blanks, before a first one
if `escaped` says so. -/
def EndsToken (escaped : Bool) (t : Text) : Prop :=
  ∀ u c v, t = u ++ c :: v → Text.isBlank c = true → (u = [] ∧ escaped = true) ∨ ['\\'] <:+ u

theorem isToken_iff : IsToken t ↔ EndsToken false t := by simp [IsToken, EndsToken]

theorem endsToken_nil : EndsToken escaped [] := by
  intro u c v h
  simp at h

theorem endsToken_cons : EndsToken escaped (c :: t) ↔
    (Text.isBlank c = true → escaped = true) ∧ EndsToken (c == '\\') t := by
  constructor
  · intro h
    refine ⟨fun hc => ?_, fun u d v ht hd => ?_⟩
    · rcases h [] c t rfl hc with ⟨-, hescaped⟩ | hnil
      · exact hescaped
      · simp at hnil
    · rcases h (c :: u) d v (by rw [ht, List.cons_append]) hd with ⟨hnil, -⟩ | hslash
      · simp at hnil
      · rcases List.suffix_cons_iff.1 hslash with heq | hslash
        · rw [List.cons.injEq] at heq
          exact .inl ⟨heq.2.symm, by simp [← heq.1]⟩
        · exact .inr hslash
  · rintro ⟨hc, ht⟩ u d v heq hd
    cases u with
    | nil =>
      rw [List.nil_append, List.cons.injEq] at heq
      exact .inl ⟨rfl, hc (heq.1 ▸ hd)⟩
    | cons a u =>
      rw [List.cons_append, List.cons.injEq] at heq
      obtain ⟨rfl, heq⟩ := heq
      rcases ht u d v heq hd with ⟨rfl, hslash⟩ | hslash
      · exact .inr (by simp [beq_iff_eq.1 hslash])
      · exact .inr (List.suffix_cons_iff.2 (.inr hslash))

/-- The text begins with the end of a token and a space behind it. -/
def Stops (escaped : Bool) (name rest t : Text) : Prop :=
  t = name ++ ' ' :: rest ∧ EndsToken escaped name

/-- Either the token has ended, or it goes on with the next character. -/
theorem stops_cons : Stops escaped name rest (c :: t) ↔
    (name = [] ∧ c = ' ' ∧ rest = t) ∨ ∃ name', name = c :: name' ∧
      (Text.isBlank c = true → escaped = true) ∧ Stops (c == '\\') name' rest t := by
  cases name with
  | nil =>
    simp only [Stops, endsToken_nil, List.nil_append, List.cons.injEq, and_true, true_and]
    constructor
    · rintro ⟨hc, ht⟩
      exact .inl ⟨hc, ht.symm⟩
    · rintro (⟨hc, ht⟩ | ⟨name', hnil, -⟩)
      · exact ⟨hc, ht.symm⟩
      · simp at hnil
  | cons a name =>
    simp only [Stops, List.cons_append, List.cons.injEq, endsToken_cons]
    constructor
    · rintro ⟨⟨rfl, rfl⟩, hc, hname⟩
      exact .inr ⟨name, ⟨rfl, rfl⟩, hc, rfl, hname⟩
    · rintro (⟨hnil, -⟩ | ⟨name', ⟨rfl, rfl⟩, hc, rfl, hname⟩)
      · simp at hnil
      · exact ⟨⟨rfl, rfl⟩, hc, hname⟩

/-! ### The readers of tokens -/

/-- If no first token is found there is none. -/
theorem not_stops_of_splitName? (h : splitName? escaped t = none) :
    ¬ Stops escaped name rest t := by
  induction t generalizing escaped name with
  | nil => simp [Stops]
  | cons c t ih =>
    rw [stops_cons]
    rw [splitName?] at h
    rintro (⟨-, rfl, -⟩ | ⟨name', -, hc, hstops⟩)
    · split at h
      · simp at h
      · split at h <;> simp at h
    · split at h
      next hblank =>
        rw [Bool.and_eq_true, Bool.not_eq_true'] at hblank
        exact absurd (hc hblank.1) (by simp [hblank.2])
      next =>
        split at h
        next => simp at h
        next hnone => exact ih hnone hstops

/-- The first token that is found is one, and no other is longer. -/
theorem stops_of_splitName? (h : splitName? escaped t = some (name, rest)) :
    Stops escaped name rest t ∧
      ∀ name' rest', Stops escaped name' rest' t → name'.length ≤ name.length := by
  induction t generalizing escaped name with
  | nil => simp [splitName?] at h
  | cons c t ih =>
    have hhere (hc : c = ' ') : Stops escaped [] t (c :: t) := stops_cons.2 (.inl ⟨rfl, hc, rfl⟩)
    rw [splitName?] at h
    split at h
    next hblank =>
      -- the blank ends the token, whatever follows
      rw [Bool.and_eq_true, Bool.not_eq_true'] at hblank
      rw [Option.ite_none_right_eq_some, Option.some.injEq, Prod.mk.injEq] at h
      obtain ⟨hc, rfl, rfl⟩ := h
      refine ⟨hhere hc, fun name' rest' hstops => ?_⟩
      rcases stops_cons.1 hstops with ⟨rfl, -⟩ | ⟨name'', -, hescaped, -⟩
      · exact Nat.le_refl _
      · exact absurd (hescaped hblank.1) (by simp [hblank.2])
    next hgoes =>
      have hc : Text.isBlank c = true → escaped = true := by
        intro hc
        simpa [hc] using hgoes
      split at h
      next name₀ rest₀ hsome =>
        rw [Option.some.injEq, Prod.mk.injEq] at h
        obtain ⟨rfl, rfl⟩ := h
        obtain ⟨hstops, hlongest⟩ := ih hsome
        refine ⟨stops_cons.2 (.inr ⟨name₀, rfl, hc, hstops⟩), fun name' rest' hstops' => ?_⟩
        rcases stops_cons.1 hstops' with ⟨rfl, -⟩ | ⟨name'', rfl, -, hstops''⟩
        · exact Nat.zero_le _
        · exact Nat.succ_le_succ (hlongest _ _ hstops'')
      next hnone =>
        rw [Option.ite_none_right_eq_some, Option.some.injEq, Prod.mk.injEq] at h
        obtain ⟨hspace, rfl, rfl⟩ := h
        refine ⟨hhere hspace, fun name' rest' hstops => ?_⟩
        rcases stops_cons.1 hstops with ⟨rfl, -⟩ | ⟨name'', -, -, hstops''⟩
        · exact Nat.le_refl _
        · exact absurd hstops'' (not_stops_of_splitName? hnone)

/-- The second token goes as far as one can. -/
theorem endsToken_takePath (escaped : Bool) (t : Text) :
    takePath escaped t <+: t ∧ EndsToken escaped (takePath escaped t) ∧
      ∀ u, u <+: t → EndsToken escaped u → u.length ≤ (takePath escaped t).length := by
  induction t generalizing escaped with
  | nil =>
    refine ⟨List.prefix_rfl, endsToken_nil, fun u hu _ => ?_⟩
    exact hu.length_le
  | cons c t ih =>
    rw [takePath]
    split
    next hblank =>
      rw [Bool.and_eq_true, Bool.not_eq_true'] at hblank
      refine ⟨List.nil_prefix, endsToken_nil, fun u hu htoken => ?_⟩
      rcases List.prefix_cons_iff.1 hu with rfl | ⟨v, rfl, -⟩
      · exact Nat.le_refl _
      · exact absurd ((endsToken_cons.1 htoken).1 hblank.1) (by simp [hblank.2])
    next hgoes =>
      obtain ⟨hstart, htoken, hlongest⟩ := ih (c == '\\')
      refine ⟨List.prefix_cons_iff.2 (.inr ⟨_, rfl, hstart⟩), endsToken_cons.2 ⟨?_, htoken⟩, ?_⟩
      · intro hc
        simpa [hc] using hgoes
      · intro u hu hu'
        rcases List.prefix_cons_iff.1 hu with rfl | ⟨v, rfl, hv⟩
        · exact Nat.zero_le _
        · exact Nat.succ_le_succ (hlongest v hv (endsToken_cons.1 hu').2)

/-! ### What they find -/

theorem splitName?_eq_some_iff :
    splitName? false t = some (first, after) ↔ IsFirst first after t := by
  have hfirst {name rest : Text} (h : splitName? false t = some (name, rest)) :
      IsFirst name rest t := by
    obtain ⟨⟨htext, htoken⟩, hlongest⟩ := stops_of_splitName? h
    exact ⟨htext, isToken_iff.2 htoken,
      fun name' rest' htext' htoken' => hlongest name' rest' ⟨htext', isToken_iff.1 htoken'⟩⟩
  refine ⟨hfirst, fun h => ?_⟩
  cases hsplit : splitName? false t with
  | none => exact absurd ⟨h.text, isToken_iff.1 h.token⟩ (not_stops_of_splitName? hsplit)
  | some tokens =>
    obtain ⟨name, rest⟩ := tokens
    obtain ⟨rfl, rfl⟩ := h.unique (hfirst hsplit)
    rfl

theorem splitName?_eq_none_iff :
    splitName? false t = none ↔ ∀ first after, t = first ++ ' ' :: after → ¬ IsToken first := by
  constructor
  · intro h first after htext htoken
    exact not_stops_of_splitName? h ⟨htext, isToken_iff.1 htoken⟩
  · intro h
    rw [Option.eq_none_iff_forall_ne_some]
    rintro ⟨first, after⟩ hsplit
    have hfirst := splitName?_eq_some_iff.1 hsplit
    exact h first after hfirst.text hfirst.token

theorem takePath_eq_iff : takePath false t = second ↔ IsSecond second t := by
  have hpath : IsSecond (takePath false t) t := by
    obtain ⟨hstart, htoken, hlongest⟩ := endsToken_takePath false t
    exact ⟨hstart, isToken_iff.2 htoken, fun u hu hu' => hlongest u hu (isToken_iff.1 hu')⟩
  constructor
  · rintro rfl
    exact hpath
  · exact hpath.unique

/-- A token is taken as a whole. -/
theorem takePath_eq_self_iff : takePath false t = t ↔ IsToken t := by
  rw [takePath_eq_iff]
  exact ⟨fun h => h.token, fun h => ⟨List.prefix_rfl, h, fun _ hu _ => hu.length_le⟩⟩

instance : Decidable (IsToken t) := decidable_of_iff _ takePath_eq_self_iff

/-! ### The rules -/

/-- What a line is read as, or why it is refused. -/
inductive IsRead : Text → Except Fault AddHeader → Prop
  /-- The line does not begin as headers do. -/
  | unopened {line : Text} (hline : ¬ "ADD ".toList <+: line) :
      IsRead line (.error (.addLine line))
  /-- An array of two strings. -/
  | array {line t first second name path : Text} (hline : line = "ADD ".toList ++ t)
      (hvalue : Json.parse? t = some (.array [.string first, .string second]))
      (hname : Text.Strips "./".toList first name) (hpath : Text.Strips "/".toList second path) :
      IsRead line (.ok ⟨name, path, false⟩)
  /-- Any other JSON value is refused. -/
  | value {line t : Text} {value : Json} (hline : line = "ADD ".toList ++ t)
      (hvalue : Json.parse? t = some value)
      (hother : ∀ first second, value ≠ .array [.string first, .string second]) :
      IsRead line (.error (.addLine line))
  /-- No JSON value, but two tokens. -/
  | legacy {line t first after second name path : Text} (hline : line = "ADD ".toList ++ t)
      (hvalue : Json.parse? t = none) (hfirst : IsFirst first after t)
      (hsecond : IsSecond second after) (hname : Text.Strips "./".toList first name)
      (hpath : Text.Strips "/".toList second path) :
      IsRead line (.ok ⟨name, path, true⟩)
  /-- No JSON value, and no space behind a token. -/
  | unsplit {line t : Text} (hline : line = "ADD ".toList ++ t) (hvalue : Json.parse? t = none)
      (hfirst : ∀ first after, t = first ++ ' ' :: after → ¬ IsToken first) :
      IsRead line (.error (.addLine line))

/-- What the parts of a header with two strings are read as. -/
theorem ofStrings_eq {first second : Text} {legacy : Bool}
    (hname : Text.Strips "./".toList first name) (hpath : Text.Strips "/".toList second path) :
    ofStrings first second legacy = ⟨name, path, legacy⟩ := by
  rw [ofStrings, ← Text.dropStart_eq_iff.2 hname, ← Text.dropStart_eq_iff.2 hpath]
  rfl

theorem isRead_parse (line : Text) : IsRead line (parse line) := by
  rw [parse]
  split
  next hnone =>
    exact .unopened (Text.afterStart?_eq_none_iff.1 hnone)
  next t hopening =>
    have hline := Text.afterStart?_eq_some_iff.1 hopening
    split
    next first second hvalue =>
      exact .array hline hvalue (Text.dropStart_eq_iff.1 rfl) (Text.dropStart_eq_iff.1 rfl)
    next value hother hvalue =>
      refine .value hline hvalue ?_
      rintro first second rfl
      exact hother first second rfl
    next hvalue =>
      split
      next first second hsplit =>
        rw [splitTokens?, Option.map_eq_some_iff] at hsplit
        obtain ⟨⟨first', after⟩, hfirst, htokens⟩ := hsplit
        rw [Prod.mk.injEq] at htokens
        obtain ⟨rfl, rfl⟩ := htokens
        exact .legacy hline hvalue (splitName?_eq_some_iff.1 hfirst) (takePath_eq_iff.1 rfl)
          (Text.dropStart_eq_iff.1 rfl) (Text.dropStart_eq_iff.1 rfl)
      next hsplit =>
        rw [splitTokens?, Option.map_eq_none_iff] at hsplit
        exact .unsplit hline hvalue (splitName?_eq_none_iff.1 hsplit)

theorem IsRead.parse_eq {outcome : Except Fault AddHeader} (h : IsRead line outcome) :
    parse line = outcome := by
  have hopening (t : Text) : Text.afterStart? opening ("ADD ".toList ++ t) = some t :=
    Text.afterStart?_append
  cases h with
  | unopened hline =>
    have hstart : Text.afterStart? opening line = none := Text.afterStart?_eq_none_iff.2 hline
    rw [parse, hstart]
  | array hline hvalue hname hpath =>
    subst hline
    rw [parse, hopening]
    simp only [hvalue, ofStrings_eq hname hpath]
  | value hline hvalue hother =>
    subst hline
    rw [parse, hopening]
    simp only [hvalue]
  | legacy hline hvalue hfirst hsecond hname hpath =>
    subst hline
    rw [parse, hopening]
    simp only [hvalue, splitTokens?, splitName?_eq_some_iff.2 hfirst, Option.map_some,
      takePath_eq_iff.2 hsecond, ofStrings_eq hname hpath]
  | unsplit hline hvalue hfirst =>
    subst hline
    rw [parse, hopening]
    simp only [hvalue, splitTokens?, splitName?_eq_none_iff.2 hfirst, Option.map_none]

/-- **How headers are read.**  A line is read as, or refused with, just what one of the rules
says. -/
theorem parse_eq_iff_isRead (line : Text) (outcome : Except Fault AddHeader) :
    parse line = outcome ↔ IsRead line outcome :=
  ⟨fun h => h ▸ isRead_parse line, IsRead.parse_eq⟩

/-- A backslash ends the first token if the only space that can end it stands right behind. -/
example : parse "ADD a\\ \\\t b".toList = .ok ⟨"a\\ \\\t".toList, "b".toList, true⟩ ∧
    parse "ADD a\\ b\tc d".toList = .ok ⟨"a\\".toList, "b".toList, true⟩ :=
  ⟨rfl, rfl⟩

end AddHeader

end BuildCards
