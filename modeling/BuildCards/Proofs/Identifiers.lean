import BuildCards.Proofs.Draws
import BuildCards.Session
import Mathlib.Data.List.Nodup
import Mathlib.Logic.Relation

/-!
# Identifiers of the cards of a session

In a session all cards get their identifiers from one supply, whatever is made, copied or rejected
meanwhile.  If no identifier comes twice in the supply, two cards have the same identifier exactly
if one was cloned from the other, perhaps over several clones in between (`Session.IsClone`, and the
equivalence that it generates).

`Session.IsSound` is the invariant that carries this: every card has an identifier that was drawn,
clones have that of their originals, and the others differ.  Every call keeps it
(`Session.isSound_perform`).  **Main theorem** (`Session.keepsIdentity_run`): the same of a whole
session, with what each call draws.
-/

namespace BuildCards

theorem Card.id_blank (kind : Kind) (id : Text) : (blank kind id).id = id := by
  cases kind <;> rfl

theorem Card.id_clone (card : Card) : card.clone.id = card.id := by
  cases card <;> rfl

theorem Card.id_withId (card : Card) (id : Text) : (card.withId id).id = id := by
  cases card <;> rfl

namespace Session

variable {s : Session}

/-! ### What a call draws -/

/-- A call draws this many identifiers. -/
inductive Draws (s : Session) : Call → Nat → Prop
  /-- A card without a text draws one. -/
  | blank (kind : Kind) : Draws s (.blank kind) 1
  /-- A text draws one, whether it is read or not. -/
  | read (kind : Kind) (source : Option Text) : Draws s (.read kind source) 1
  /-- A document draws one for each block that is closed until reading stops. -/
  | document {text : Text} {n : Nat} (h : Closings (Text.lines text) n) : Draws s (.document text) n
  /-- A clone draws none. -/
  | clone (i : Nat) : Draws s (.clone i) 0
  /-- A duplicate draws one. -/
  | duplicate {i : Nat} (h : i < s.entries.length) : Draws s (.duplicate i) 1
  /-- A card that is not there is not duplicated. -/
  | absent {i : Nat} (h : s.entries.length ≤ i) : Draws s (.duplicate i) 0

theorem exists_draws (s : Session) (call : Call) : ∃ n, s.Draws call n := by
  cases call with
  | blank kind => exact ⟨1, .blank kind⟩
  | read kind source => exact ⟨1, .read kind source⟩
  | document text =>
    obtain ⟨n, hn⟩ := exists_closings (Text.lines text)
    exact ⟨n, .document hn⟩
  | clone i => exact ⟨0, .clone i⟩
  | duplicate i =>
    rcases Nat.lt_or_ge i s.entries.length with hi | hi
    · exact ⟨1, .duplicate hi⟩
    · exact ⟨0, .absent hi⟩

theorem ids_keep {α : Type} (s : Session) (reading : Reading α) (cards : α → List Card) :
    (s.keep reading cards).ids = reading.ids := by
  unfold keep
  split <;> rfl

theorem ids_perform {call : Call} {n : Nat} (h : s.Draws call n) :
    (s.perform call).ids = s.ids.skip n := by
  cases h with
  | blank kind => exact ids_keep ..
  | read kind source => exact ids_keep ..
  | document h => exact (ids_keep ..).trans (Document.ids_parse_of_closings h)
  | clone i =>
    rw [perform]
    split <;> rfl
  | duplicate hi =>
    rw [perform, List.getElem?_eq_getElem hi]
    exact ids_keep ..
  | absent hi =>
    rw [perform, List.getElem?_eq_none hi]
    rfl

/-! ### The invariant -/

/-- The identifiers of the cards are as they should be. -/
structure IsSound (s : Session) : Prop where
  /-- They were drawn from the supply. -/
  drawn : ∀ e ∈ s.entries, ∃ n < s.ids.drawn, e.card.id = s.ids.name n
  /-- A clone comes after its original and has the identifier of it. -/
  clone : ∀ i j, s.IsClone i j → i < j ∧ s.idAt? i = s.idAt? j
  /-- Cards that are no clones have identifiers of their own. -/
  distinct : s.entries.Pairwise fun e e' =>
    e.original = none → e'.original = none → e.card.id ≠ e'.card.id

theorem isSound_start (ids : IdSupply) : (start ids).IsSound where
  drawn := by simp [start]
  clone := by simp [start, IsClone]
  distinct := .nil

/-- More cards leave those before them where they are. -/
theorem idAt?_append {more : List Entry} {ids : IdSupply} {i : Nat} (hi : i < s.entries.length) :
    idAt? ⟨s.entries ++ more, ids⟩ i = s.idAt? i := by
  simp [idAt?, List.getElem?_append_left hi]

theorem isClone_append {more : List Entry} {ids : IdSupply} {i j : Nat}
    (hj : j < s.entries.length) : IsClone ⟨s.entries ++ more, ids⟩ i j ↔ s.IsClone i j := by
  simp [IsClone, List.getElem?_append_left hj]

/-- What clones are like is kept when cards come in behind them. -/
theorem IsSound.clone_append (h : s.IsSound) {more : List Entry} {ids : IdSupply} {i j : Nat}
    (hj : j < s.entries.length) (hclone : IsClone ⟨s.entries ++ more, ids⟩ i j) :
    i < j ∧ idAt? ⟨s.entries ++ more, ids⟩ i = idAt? ⟨s.entries ++ more, ids⟩ j := by
  obtain ⟨hlt, hid⟩ := h.clone i j ((isClone_append hj).1 hclone)
  rw [idAt?_append hj, idAt?_append (Nat.lt_trans hlt hj)]
  exact ⟨hlt, hid⟩

/-- Cards with the next identifiers of the supply keep the invariant, also if more identifiers are
drawn for none. -/
theorem IsSound.append_cards (h : s.IsSound) (hids : Function.Injective s.ids.name)
    (cards : List Card) {n : Nat} (hn : cards.length ≤ n)
    (hcards : cards.map Card.id =
      (List.range cards.length).map fun i => s.ids.name (s.ids.drawn + i)) :
    IsSound ⟨s.entries ++ cards.map (⟨·, none⟩), s.ids.skip n⟩ := by
  have hnew : ∀ card ∈ cards, ∃ i < cards.length, card.id = s.ids.name (s.ids.drawn + i) := by
    intro card hcard
    have hmem := List.mem_map_of_mem (f := Card.id) hcard
    rw [hcards] at hmem
    obtain ⟨i, hi, hid⟩ := List.mem_map.1 hmem
    exact ⟨i, List.mem_range.1 hi, hid.symm⟩
  constructor
  case drawn =>
    intro e he
    rcases List.mem_append.1 he with he | he
    · obtain ⟨m, hm, hid⟩ := h.drawn e he
      exact ⟨m, Nat.lt_add_right n hm, hid⟩
    · obtain ⟨card, hcard, rfl⟩ := List.mem_map.1 he
      obtain ⟨i, hi, hid⟩ := hnew card hcard
      exact ⟨s.ids.drawn + i, Nat.add_lt_add_left (Nat.lt_of_lt_of_le hi hn) _, hid⟩
  case clone =>
    intro i j hclone
    by_cases hj : j < s.entries.length
    · exact h.clone_append hj hclone
    · -- the cards that come in are no clones
      obtain ⟨e, he, horiginal⟩ := hclone
      rw [List.getElem?_append_right (Nat.not_lt.1 hj)] at he
      obtain ⟨card, -, rfl⟩ := List.mem_map.1 (List.mem_of_getElem? he)
      simp at horiginal
  case distinct =>
    have hnodup : (cards.map Card.id).Nodup := by
      rw [hcards]
      refine List.Nodup.map (fun i j hij => ?_) List.nodup_range
      exact Nat.add_left_cancel (hids hij)
    refine List.pairwise_append.2 ⟨h.distinct, ?_, ?_⟩
    · rw [List.pairwise_map]
      exact (List.pairwise_map.1 hnodup).imp fun hne _ _ => hne
    · -- what comes in was not drawn before
      intro e he e' he' _ _ heq
      obtain ⟨card, hcard, rfl⟩ := List.mem_map.1 he'
      obtain ⟨m, hm, hid⟩ := h.drawn e he
      obtain ⟨i, -, hid'⟩ := hnew card hcard
      have hposition : m = s.ids.drawn + i := hids (hid.symm.trans (heq.trans hid'))
      omega

/-- A clone keeps the invariant. -/
theorem IsSound.append_clone (h : s.IsSound) {i : Nat} {e : Entry} (he : s.entries[i]? = some e) :
    IsSound { s with entries := s.entries ++ [⟨e.card.clone, some i⟩] } where
  drawn := by
    intro e' he'
    rcases List.mem_append.1 he' with he' | he'
    · exact h.drawn e' he'
    · rw [List.mem_singleton.1 he', Card.id_clone]
      exact h.drawn e (List.mem_of_getElem? he)
  clone := by
    intro i' j hclone
    by_cases hj : j < s.entries.length
    · exact h.clone_append hj hclone
    · -- the last card is the clone
      obtain ⟨e', he', horiginal⟩ := hclone
      have hlength : j = s.entries.length := by
        have hlt := (List.getElem?_eq_some_iff.1 he').1
        rw [List.length_append, List.length_singleton] at hlt
        omega
      subst hlength
      rw [List.getElem?_concat_length, Option.some.injEq] at he'
      subst he'
      rw [Option.some.injEq] at horiginal
      subst horiginal
      have hi := (List.getElem?_eq_some_iff.1 he).1
      refine ⟨hi, ?_⟩
      rw [idAt?_append hi, idAt?, idAt?, he, List.getElem?_concat_length, Option.map_some,
        Option.map_some, Card.id_clone]
  distinct := by
    refine List.pairwise_append.2 ⟨h.distinct, List.pairwise_singleton .., ?_⟩
    intro e' _ e'' he'' _ hnone
    rw [List.mem_singleton.1 he''] at hnone
    simp at hnone

/-! ### Calls keep it -/

/-- What is read keeps the invariant if all that it draws goes to its cards. -/
theorem IsSound.keep {α : Type} (h : s.IsSound) (hids : Function.Injective s.ids.name)
    {reading : Reading α} {cards : α → List Card} {n : Nat} (hdrawn : reading.ids = s.ids.skip n)
    (hcards : ∀ a, reading.result = .ok a → (cards a).length ≤ n ∧ (cards a).map Card.id =
      (List.range (cards a).length).map fun i => s.ids.name (s.ids.drawn + i)) :
    (s.keep reading cards).IsSound := by
  unfold Session.keep
  split
  next a hresult =>
    rw [hdrawn]
    exact h.append_cards hids (cards a) (hcards a hresult).1 (hcards a hresult).2
  next =>
    have hnone : IsSound ⟨s.entries ++ [], s.ids.skip n⟩ :=
      h.append_cards hids [] (Nat.zero_le n) rfl
    rw [List.append_nil] at hnone
    rw [hdrawn]
    exact hnone

/-- One card that draws one identifier keeps the invariant. -/
theorem IsSound.keep_one (h : s.IsSound) (hids : Function.Injective s.ids.name)
    {reading : Reading Card} (hdrawn : reading.ids = s.ids.skip 1)
    (hcard : ∀ card, reading.result = .ok card → card.id = s.ids.next) :
    (s.keep reading fun card => [card]).IsSound := by
  refine h.keep hids hdrawn fun card hresult => ⟨Nat.le_refl 1, ?_⟩
  rw [List.map_singleton, hcard card hresult]
  rfl

/-- **Every call keeps the invariant.** -/
theorem isSound_perform (h : s.IsSound) (hids : Function.Injective s.ids.name) (call : Call) :
    (s.perform call).IsSound := by
  cases call with
  | blank kind =>
    have hdrawn : (Card.blankFrom kind s.ids).ids = s.ids.skip 1 := rfl
    refine h.keep_one hids hdrawn fun card hcard => ?_
    rw [← Except.ok.inj hcard]
    exact Card.id_blank ..
  | read kind source =>
    have hdrawn : (Card.read kind source s.ids).ids = s.ids.skip 1 := rfl
    exact h.keep_one hids hdrawn fun card hcard => Card.id_of_parse hcard
  | document text =>
    obtain ⟨n, hn⟩ := exists_closings (Text.lines text)
    refine h.keep hids (Document.ids_parse_of_closings hn) fun cards hcards => ?_
    obtain ⟨hdrawn, hmap⟩ := Document.map_id_of_parse hcards
    have hlength := congrArg IdSupply.drawn (hdrawn.symm.trans (Document.ids_parse_of_closings hn))
    exact ⟨Nat.le_of_add_le_add_left (Nat.le_of_eq hlength), hmap⟩
  | clone i =>
    rw [perform]
    cases he : s.entries[i]? with
    | none => exact h
    | some e => exact h.append_clone he
  | duplicate i =>
    rw [perform]
    cases s.entries[i]? with
    | none => exact h
    | some e =>
      have hdrawn : (e.card.duplicateFrom s.ids).ids = s.ids.skip 1 := rfl
      refine h.keep_one hids hdrawn fun card hcard => ?_
      rw [← Except.ok.inj hcard]
      exact Card.id_withId ..

theorem name_perform (s : Session) (call : Call) : (s.perform call).ids.name = s.ids.name := by
  obtain ⟨n, hn⟩ := s.exists_draws call
  rw [ids_perform hn, IdSupply.name_skip]

/-- **A session is sound at every point.** -/
theorem isSound_run {ids : IdSupply} (hids : Function.Injective ids.name) (calls : List Call) :
    (run ids calls).IsSound ∧ (run ids calls).ids.name = ids.name := by
  -- the last call comes to a session that is sound
  induction calls using List.reverseRecOn with
  | nil => exact ⟨isSound_start ids, rfl⟩
  | append_singleton calls call ih =>
    obtain ⟨hsound, hname⟩ := ih
    rw [run, List.foldl_append]
    refine ⟨isSound_perform hsound ?_ call, (name_perform _ call).trans hname⟩
    rw [hname]
    exact hids

/-! ### Cards with the same identifier -/

/-- Clones of clones have the identifier of the first original. -/
theorem IsSound.idAt?_eq (h : s.IsSound) {i j : Nat} (hlink : Relation.EqvGen s.IsClone i j) :
    s.idAt? i = s.idAt? j := by
  induction hlink with
  | rel i j hclone => exact (h.clone i j hclone).2
  | refl i => rfl
  | symm i j _ ih => exact ih.symm
  | trans i j k _ _ ih ih' => exact ih.trans ih'

/-- Every card leads back to one that is no clone. -/
theorem IsSound.exists_original (h : s.IsSound) {i : Nat} (hi : i < s.entries.length) :
    ∃ (r : Nat) (hr : r < s.entries.length), s.entries[r].original = none ∧
      Relation.EqvGen s.IsClone r i := by
  induction i using Nat.strongRecOn with
  | ind i ih =>
    cases horiginal : s.entries[i].original with
    | none => exact ⟨i, hi, horiginal, .refl i⟩
    | some k =>
      have hclone : s.IsClone k i := ⟨_, List.getElem?_eq_getElem hi, horiginal⟩
      have hki := (h.clone k i hclone).1
      obtain ⟨r, hr, hnone, hlink⟩ := ih k hki (Nat.lt_trans hki hi)
      exact ⟨r, hr, hnone, hlink.trans _ _ _ (.rel _ _ hclone)⟩

theorem IsSound.linked_of_idAt?_eq (h : s.IsSound) {i j : Nat} (hi : i < s.entries.length)
    (hj : j < s.entries.length) (hid : s.idAt? i = s.idAt? j) : Relation.EqvGen s.IsClone i j := by
  obtain ⟨r, hr, hnone, hri⟩ := h.exists_original hi
  obtain ⟨q, hq, hnone', hqj⟩ := h.exists_original hj
  have hids : s.idAt? r = s.idAt? q :=
    (h.idAt?_eq hri).trans (hid.trans (h.idAt?_eq hqj).symm)
  rw [idAt?, idAt?, List.getElem?_eq_getElem hr, List.getElem?_eq_getElem hq, Option.map_some,
    Option.map_some, Option.some.injEq] at hids
  -- the two originals have one identifier, so they are one card
  have hpairwise := List.pairwise_iff_getElem.1 h.distinct
  rcases Nat.lt_trichotomy r q with hlt | rfl | hlt
  · exact absurd hids (hpairwise r q hr hq hlt hnone hnone')
  · exact (hri.symm _ _).trans _ _ _ hqj
  · exact absurd hids.symm (hpairwise q r hq hr hlt hnone' hnone)

/-! ### The theorem -/

/-- What a session knows of its cards by their identifiers. -/
structure KeepsIdentity (s : Session) : Prop where
  /-- Each call draws what it says, and no more. -/
  draws : ∀ call n, s.Draws call n → (s.perform call).ids = s.ids.skip n
  /-- Each call says what it draws. -/
  exists_draws : ∀ call, ∃ n, s.Draws call n
  /-- The cards of a document that is read have the next identifiers, in order. -/
  consecutive : ∀ text cards, (Document.parse text s.ids).result = .ok cards →
    cards.map Card.id = (List.range cards.length).map fun i => s.ids.name (s.ids.drawn + i)
  /-- Cards have the same identifier exactly if they are clones of each other. -/
  same : ∀ i j, i < s.entries.length → j < s.entries.length →
    (s.idAt? i = s.idAt? j ↔ Relation.EqvGen s.IsClone i j)

/-- **Identifiers tell cards apart, up to clones.** -/
theorem keepsIdentity_run {ids : IdSupply} (h : Function.Injective ids.name) (calls : List Call) :
    (run ids calls).KeepsIdentity := by
  have hsound := (isSound_run h calls).1
  exact {
    draws := fun _ _ hdraws => ids_perform hdraws
    exists_draws := fun call => (run ids calls).exists_draws call
    consecutive := fun _ _ hcards => (Document.map_id_of_parse hcards).2
    same := fun _ _ hi hj => ⟨hsound.linked_of_idAt?_eq hi hj, hsound.idAt?_eq⟩ }

/-- A document with two cards, a text that holds none, a clone of the first card, a duplicate of the
clone, and a clone of each of these two. -/
def copies : List Call :=
  [.document "#Start: Packages\n#End\n#Start: File\n#End".toList, .read (.recipe .file) (some ['x']),
    .clone 0, .duplicate 2, .clone 2, .clone 3]

/-- The clone of a clone is linked to the first card, and the clone of its duplicate is not. -/
theorem keepsIdentity_copies : Function.Injective IdSupply.sequential.name ∧
    (run IdSupply.sequential copies).ids.drawn = 4 ∧
    Relation.EqvGen (run IdSupply.sequential copies).IsClone 0 4 ∧
    ¬ Relation.EqvGen (run IdSupply.sequential copies).IsClone 0 5 := by
  have hkeeps := keepsIdentity_run IdSupply.name_sequential_injective copies
  have hrun : (run IdSupply.sequential copies).ids.drawn = 4 ∧
      (run IdSupply.sequential copies).entries.map (fun e => e.card.id) =
        ["id-1".toList, "id-2".toList, "id-1".toList, "id-4".toList, "id-1".toList,
          "id-4".toList] := by decide +kernel
  obtain ⟨hdrawn, hentries⟩ := hrun
  have hlength : (run IdSupply.sequential copies).entries.length = 6 := by
    simpa using congrArg List.length hentries
  have hid (i : Nat) : (run IdSupply.sequential copies).idAt? i =
      ["id-1".toList, "id-2".toList, "id-1".toList, "id-4".toList, "id-1".toList,
        "id-4".toList][i]? := by
    rw [idAt?, ← hentries, List.getElem?_map]
  have hsame := (hkeeps.same 0 4 (by omega) (by omega)).1 (by rw [hid, hid]; rfl)
  refine ⟨IdSupply.name_sequential_injective, hdrawn, hsame, fun hlink => ?_⟩
  have heq := (hkeeps.same 0 5 (by omega) (by omega)).2 hlink
  rw [hid, hid] at heq
  exact absurd heq (by decide)

end Session

end BuildCards
