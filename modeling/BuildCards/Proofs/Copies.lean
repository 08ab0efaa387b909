import BuildCards.Proofs.BlockLines
import Mathlib.Logic.Function.Iterate

/-!
# Copies

A command is copied by reading its own text, so its copy can be another command: the body of the
copy is trimmed, a marker at its end becomes the flag, and a command with nothing to say becomes the
blank one.

* `Recipe.render_clone`: what is written of a recipe is the text of copies, which is not changed by
  copying them once more, so a recipe and its copies are written alike.
* `Command.clone_clone_clone`: a copy of a copy is what all later copies are.  A first copy can
  still differ from it, if all that the original said was a marker.
* `Command.clone_eq_self_iff`: which commands are their own copies.

**Main theorem** (`Card.copies_render_alike`): the same of cards.
-/

namespace BuildCards

namespace Command

variable {c : Command}

/-- The command says something and reads as itself. -/
structure IsCanonical (c : Command) : Prop where
  /-- The command has an instruction. -/
  instruction : c.instruction ≠ none
  /-- The command has a body. -/
  body : c.body ≠ []
  /-- The body needs no trimming. -/
  trimmed : Text.trim c.body = c.body
  /-- The body ends in no marker, unless the command may be cached. -/
  unmarked : c.cache = true ∨ ¬ cacheMarker <:+ c.body ∧ ¬ legacyCacheMarker <:+ c.body

theorem IsCanonical.isNormal (h : c.IsCanonical) : c.IsNormal := by
  refine ⟨h.trimmed, fun hcache => ?_⟩
  obtain ⟨hmarker, hlegacy⟩ := h.unmarked.resolve_left (by simp [hcache])
  exact beforeMarker?_eq_none_iff.2 ⟨hlegacy, hmarker⟩

theorem IsCanonical.text_ne_nil (h : c.IsCanonical) : c.text ≠ [] := by
  rw [Ne, text_eq_nil_iff, not_or]
  refine ⟨h.instruction, fun hblank => h.body ?_⟩
  rw [← h.trimmed]
  exact Text.trim_eq_nil_iff.2 hblank

/-- A normal command that says something is canonical. -/
theorem IsNormal.isCanonical (h : c.IsNormal) (hne : c.text ≠ []) : c.IsCanonical := by
  obtain ⟨i, hi, hbody⟩ := exists_instruction hne
  refine ⟨by simp [hi], ?_, h.trimmed, ?_⟩
  · rintro hnil
    exact hbody (by simp [hnil, Text.IsBlank])
  · cases hcache : c.cache with
    | true => exact .inl rfl
    | false =>
      obtain ⟨hlegacy, hmarker⟩ := beforeMarker?_eq_none_iff.1 (h.unmarked hcache)
      exact .inr ⟨hmarker, hlegacy⟩

/-! ### Copies of copies -/

theorem clone_of_text_eq_nil (h : c.text = []) : c.clone = blank := by
  have hparse := parse_text c
  rw [h, parse_of_isBlank (by decide), Except.ok.injEq] at hparse
  exact hparse.symm

theorem clone_blank : blank.clone = blank := clone_of_text_eq_nil rfl

/-- Copying a copy changes nothing, unless the copy says nothing: then the blank command is left. -/
theorem clone_clone_eq_or (c : Command) : c.clone.clone = c.clone ∨ c.clone.clone = blank := by
  by_cases h : c.clone.text = []
  · exact .inr (clone_of_text_eq_nil h)
  · exact .inl (c.isNormal_clone.clone_eq h)

/-- **Copying settles after two steps.** -/
theorem clone_clone_clone (c : Command) : c.clone.clone.clone = c.clone.clone := by
  rcases c.clone_clone_eq_or with h | h
  · rw [h, h]
  · rw [h, clone_blank]

/-- **Which commands are their own copies.** -/
theorem clone_eq_self_iff : c.clone = c ↔ c = blank ∨ c.IsCanonical := by
  constructor
  · intro h
    by_cases hne : c.text = []
    · exact .inl (h.symm.trans (clone_of_text_eq_nil hne))
    · have hnormal : c.IsNormal := h ▸ c.isNormal_clone
      exact .inr (hnormal.isCanonical hne)
  · rintro (rfl | h)
    · exact clone_blank
    · exact h.isNormal.clone_eq h.text_ne_nil

/-- A command with nothing but a marker has a copy that is no copy of itself. -/
example : (⟨some .run, cacheMarker, false⟩ : Command).clone = ⟨some .run, [], true⟩ ∧
    (⟨some .run, cacheMarker, false⟩ : Command).clone.clone = blank := by
  decide

end Command

/-! ### Recipes -/

namespace Recipe

variable (r : Recipe)

theorem renderedLines_clone (kind : RecipeKind) :
    r.clone.renderedLines kind = r.renderedLines kind := by
  have hown : Command.texts (r.clone.ownCommands kind) = Command.texts (r.ownCommands kind) := by
    rw [ownCommands, ownCommands]
    split
    · rfl
    · exact Command.texts_map_clone fun c hc => by
        obtain ⟨d, -, rfl⟩ := List.mem_map.1 hc
        exact d.isNormal_clone
  rw [renderedLines_eq, renderedLines_eq, hown]
  rfl

/-- A recipe and its copy are written alike. -/
theorem render_clone (kind : RecipeKind) : r.clone.render kind = r.render kind :=
  render_congr rfl rfl (r.renderedLines_clone kind)

theorem clone_clone_clone : r.clone.clone.clone = r.clone.clone := by
  have hcommands : ((r.commands.map Command.clone).map Command.clone).map Command.clone =
      (r.commands.map Command.clone).map Command.clone := by
    simp only [List.map_map]
    exact List.map_congr_left fun c _ => c.clone_clone_clone
  simp only [clone, hcommands]

variable {r}

theorem clone_eq_self_iff :
    r.clone = r ↔ ∀ c ∈ r.commands, c = Command.blank ∨ c.IsCanonical := by
  have hcommands : r.clone = r ↔ r.commands.map Command.clone = r.commands := by
    constructor
    · exact congrArg Recipe.commands
    · intro h
      rw [clone, h]
  have hmap : r.commands.map Command.clone = r.commands ↔ ∀ c ∈ r.commands, c.clone = c := by
    conv => lhs; rhs; rw [← List.map_id r.commands]
    exact List.map_inj_left
  simp only [hcommands, hmap, Command.clone_eq_self_iff]

end Recipe

/-! ### Cards -/

namespace Card

/-- The commands that a card keeps; a list of packages keeps none. -/
def commands : Card → List Command
  | recipe _ r => r.commands
  | packages _ => []

/-- The card with other commands. -/
def withCommands (commands : List Command) : Card → Card
  | recipe kind r => recipe kind { r with commands := commands }
  | packages p => packages p

variable (card : Card)

theorem clone_eq_withCommands :
    card.clone = card.withCommands (card.commands.map Command.clone) := by
  cases card <;> rfl

theorem render_clone : card.clone.render = card.render := by
  cases card with
  | recipe kind r => exact r.render_clone kind
  | packages p => rfl

theorem clone_clone_clone : card.clone.clone.clone = card.clone.clone := by
  cases card with
  | recipe kind r => exact congrArg (recipe kind) r.clone_clone_clone
  | packages p => rfl

/-- All copies from the second on are the same. -/
theorem clone_iterate (n : Nat) : clone^[n + 2] card = card.clone.clone := by
  induction n with
  | zero => rfl
  | succ n ih => rw [Function.iterate_succ_apply', ih, clone_clone_clone]

variable {card}

theorem clone_eq_self_iff :
    card.clone = card ↔ ∀ c ∈ card.commands, c = Command.blank ∨ c.IsCanonical := by
  cases card with
  | recipe kind r => simpa [clone, commands] using r.clone_eq_self_iff
  | packages p => simp [clone, commands]

/-- **Copies are written as their originals are.**  A copy of a card differs from it in nothing but
the commands, of which there are as many, and a duplicate differs from the copy in nothing but the
identifier; both are written as the card is.  From the second on, all copies are the same, and the
first one is the card itself exactly if each command that it keeps is blank or canonical. -/
theorem copies_render_alike (card : Card) (id : Text) :
    (∃ commands, card.clone = card.withCommands commands ∧
      commands.length = card.commands.length) ∧
    ((card.duplicate id).id = id ∧ (card.duplicate id).withId card.clone.id = card.clone) ∧
    (card.clone.render = card.render ∧ (card.duplicate id).render = card.render) ∧
    (∀ n, clone^[n + 2] card = card.clone.clone) ∧
    (card.clone = card ↔ ∀ c ∈ card.commands, c = Command.blank ∨ c.IsCanonical) := by
  have hid : (card.duplicate id).id = id := by cases card <;> rfl
  have hrest : (card.duplicate id).withId card.clone.id = card.clone := by cases card <;> rfl
  have hduplicate : (card.duplicate id).render = card.render :=
    (card.clone.render_withId id).trans card.render_clone
  exact ⟨⟨_, card.clone_eq_withCommands, List.length_map _⟩, ⟨hid, hrest⟩,
    ⟨card.render_clone, hduplicate⟩, card.clone_iterate, clone_eq_self_iff⟩

end Card

end BuildCards
