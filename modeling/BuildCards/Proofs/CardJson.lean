import BuildCards.Card
import BuildCards.Document
import BuildCards.Proofs.JsonText
import Mathlib.Data.List.Forall2

/-!
# Cards in JSON, read back

The JSON of cards is read as what was written (`Card.parse?_write_listToJson`), and nothing of a
card is lost in it but the text that the card was read from (`Card.listToJson_eq_iff`).  **Main
theorem** (`Card.listToJson_tells`): this is so for the texts of the JSON too, with space and
without, so cards with the same JSON are written as the same document.
-/

namespace BuildCards

/-! ### Commands -/

namespace Command

variable {c d : Command}

theorem fits_toJson (c : Command) : Json.Fits 1 c.toJson := by
  have hinstruction :
      Json.Fits 0 ((c.instruction.map fun i => Json.string i.keyword).getD .null) := by
    cases c.instruction with
    | none => exact .null
    | some i => exact .string _
  refine .object fun m hm => ?_
  simp only [List.mem_cons, List.not_mem_nil, or_false] at hm
  rcases hm with rfl | rfl | rfl
  · exact hinstruction
  · exact .string _
  · exact .bool _

theorem toJson_inj : c.toJson = d.toJson ↔ c = d := by
  refine ⟨fun h => ?_, fun h => h ▸ rfl⟩
  simp only [toJson, Json.object.injEq, List.cons.injEq, Prod.mk.injEq, Json.string.injEq,
    Json.bool.injEq, true_and, and_true] at h
  obtain ⟨hinstruction, hbody, hcache⟩ := h
  obtain ⟨i, body, cache⟩ := c
  obtain ⟨j, body', cache'⟩ := d
  have hij : i = j := by
    cases i with
    | none => cases j <;> simp_all
    | some i =>
      cases j with
      | none => simp at hinstruction
      | some j =>
        have hkeyword : i.keyword = j.keyword := by simpa using hinstruction
        rw [Instruction.keyword_injective hkeyword]
  rw [hij, show body = body' from hbody, show cache = cache' from hcache]

end Command

/-! ### Cards -/

namespace Card

/-- The card without the text that it was read from. -/
def withoutSource : Card → Card
  | recipe kind r => recipe kind { r with source := none }
  | packages p => packages { p with source := none }

theorem fits_toJson (card : Card) : Json.Fits 3 card.toJson := by
  cases card with
  | recipe kind r =>
    have hcommands : Json.Fits 2 (.array (r.commands.map Command.toJson)) := by
      refine .array fun v hv => ?_
      obtain ⟨c, -, rfl⟩ := List.mem_map.1 hv
      exact c.fits_toJson
    refine .object fun m hm => ?_
    simp only [List.mem_cons, List.not_mem_nil, or_false] at hm
    rcases hm with rfl | rfl | rfl | rfl | rfl | rfl | rfl | rfl
    · exact .string _
    · exact .string _
    · exact .string _
    · exact .string _
    · exact hcommands
    · exact .bool _
    · exact .bool _
    · exact .bool _
  | packages p =>
    refine .object fun m hm => ?_
    simp only [List.mem_cons, List.not_mem_nil, or_false] at hm
    rcases hm with rfl | rfl | rfl | rfl
    · exact .string _
    · exact .string _
    · exact .string _
    · exact .bool _

theorem fits_listToJson (cards : List Card) : Json.Fits 4 (listToJson cards) := by
  refine .array fun v hv => ?_
  obtain ⟨card, -, rfl⟩ := List.mem_map.1 hv
  exact card.fits_toJson

/-- **The JSON of cards is read as what was written.** -/
theorem parse?_write_listToJson (cards : List Card) (indent : Option Nat) :
    Json.parse? (Json.write indent (listToJson cards)) = some (listToJson cards) :=
  Json.parse?_write (fits_listToJson cards) (by decide) indent

theorem toJson_eq_iff {x y : Card} : x.toJson = y.toJson ↔ x.withoutSource = y.withoutSource := by
  cases x with
  | recipe kind r =>
    cases y with
    | recipe kind' r' =>
      have hkind : (kind : Kind).label = (kind' : Kind).label ↔ kind = kind' :=
        ⟨fun h => by simpa using Kind.label_injective h, fun h => h ▸ rfl⟩
      have hcommands : r.commands.map Command.toJson = r'.commands.map Command.toJson ↔
          r.commands = r'.commands :=
        List.map_inj_right fun c d h => Command.toJson_inj.1 h
      simp [toJson, withoutSource, Card.kind, hkind, hcommands]
    | packages p => simp [toJson, withoutSource]
  | packages p =>
    cases y with
    | recipe kind r => simp [toJson, withoutSource]
    | packages p' => simp [toJson, withoutSource, Card.kind]

/-- **In JSON nothing of cards is lost but their texts.** -/
theorem listToJson_eq_iff {xs ys : List Card} :
    listToJson xs = listToJson ys ↔ xs.map withoutSource = ys.map withoutSource := by
  rw [listToJson, listToJson, Json.array.injEq]
  induction xs generalizing ys with
  | nil => cases ys <;> simp
  | cons x xs ih =>
    cases ys with
    | nil => simp
    | cons y ys => simp [toJson_eq_iff, ih]

/-! ### Texts of cards -/

theorem write_listToJson_eq_iff {xs ys : List Card} (indent : Option Nat) :
    Json.write indent (listToJson xs) = Json.write indent (listToJson ys) ↔
      xs.map withoutSource = ys.map withoutSource := by
  have hinj := Json.write_inj (fits_listToJson xs) (fits_listToJson ys) (by decide) indent
  rw [hinj, listToJson_eq_iff]

/-- The text that a card was read from has no part in what is written. -/
theorem render_withoutSource (card : Card) : card.withoutSource.render = card.render := by
  cases card <;> rfl

theorem render_eq_of_withoutSource {xs ys : List Card}
    (h : xs.map withoutSource = ys.map withoutSource) :
    Document.render xs = Document.render ys := by
  have hrender (cards : List Card) :
      cards.map render = (cards.map withoutSource).map render := by
    rw [List.map_map]
    exact List.map_congr_left fun card _ => (render_withoutSource card).symm
  rw [Document.render, hrender xs, h, ← hrender ys, Document.render]

/-- **What the JSON of cards tells.**  Two lists of cards have the same text in JSON, with space or
without, exactly if they have the same cards in the same order but for the texts that these were
read from.  The text without space stands on one line, and it is read as the array with the object
of each card.  So cards with the same JSON are written as the same document. -/
theorem listToJson_tells (xs ys : List Card) :
    ((listToJson xs).compact = (listToJson ys).compact ↔
      List.Forall₂ (fun x y => x.withoutSource = y.withoutSource) xs ys) ∧
    ((listToJson xs).pretty = (listToJson ys).pretty ↔
      List.Forall₂ (fun x y => x.withoutSource = y.withoutSource) xs ys) ∧
    (∀ c ∈ (listToJson xs).compact, ' ' ≤ c) ∧
    Json.parse? (listToJson xs).compact = some (.array (xs.map toJson)) ∧
    ((listToJson xs).compact = (listToJson ys).compact ∨
        (listToJson xs).pretty = (listToJson ys).pretty →
      Document.render xs = Document.render ys) := by
  have hforall : xs.map withoutSource = ys.map withoutSource ↔
      List.Forall₂ (fun x y => x.withoutSource = y.withoutSource) xs ys := by
    rw [← List.forall₂_eq_eq_eq, List.forall₂_map_left_iff, List.forall₂_map_right_iff]
  refine ⟨?_, ?_, ?_, parse?_write_listToJson xs none, ?_⟩
  · rw [← hforall]
    exact write_listToJson_eq_iff none
  · rw [← hforall]
    exact write_listToJson_eq_iff (some 0)
  · intro c hc
    exact Json.space_le_of_mem_compact (fits_listToJson xs) hc
  · rintro (h | h)
    · exact render_eq_of_withoutSource ((write_listToJson_eq_iff none).1 h)
    · exact render_eq_of_withoutSource ((write_listToJson_eq_iff (some 0)).1 h)

/-- A recipe with a command without instruction, and with characters that JSON escapes. -/
def quotedRecipe : Recipe where
  id := "id-1".toList
  name := "a\"b\\".toList
  path := "x".toList
  commands := [⟨none, "]\x7d\n".toList, true⟩]
  hasBootstrap := false
  legacyAdd := false
  fromText := true
  source := some "ADD".toList

/-- Without its text it has the same JSON, which is one line. -/
theorem listToJson_tells_quoted :
    recipe .file quotedRecipe ≠ recipe .file { quotedRecipe with source := none } ∧
    (listToJson [recipe .file quotedRecipe]).compact =
      (listToJson [recipe .file { quotedRecipe with source := none }]).compact ∧
    (∀ c ∈ (listToJson [recipe .file quotedRecipe]).compact, ' ' ≤ c) ∧
    (listToJson [recipe .file quotedRecipe]).compact ≠
      (listToJson [recipe .sshKey quotedRecipe]).compact := by
  obtain ⟨hcompact, -, hline, -⟩ := listToJson_tells [recipe .file quotedRecipe]
    [recipe .file { quotedRecipe with source := none }]
  obtain ⟨hkind, -⟩ := listToJson_tells [recipe .file quotedRecipe]
    [recipe .sshKey quotedRecipe]
  refine ⟨by decide, hcompact.2 (.cons rfl .nil), hline, fun h => ?_⟩
  cases hkind.1 h with
  | cons hcard _ => exact absurd hcard (by decide)

end Card

end BuildCards
