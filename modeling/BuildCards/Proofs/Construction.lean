import BuildCards.Proofs.Copies

/-!
# Cards as they are made

A card is made without a text, from a text of its own, or from a block of a document, and then it
can be copied.  All of its fields can be changed afterwards; in a card that nobody has changed
(`Card.Made`) they belong together (`Card.IsSound`):

* the card says that it was read from a text exactly if it keeps one, and otherwise says nothing;
* an SSH key goes to its place, wherever its text puts it;
* its commands are in the form in which lines are read, on one line each (`Command.IsSound`);
* the names of its packages have one space between each two.

**Main theorem** (`Card.isSound_of_made`): the cards that are made are sound.  What a command says
of this is kept by copies only because a body without a line feed is written on one line.
-/

namespace BuildCards

/-! ### Commands -/

namespace Command

/-- The command has the form in which lines are read. -/
structure IsSound (c : Command) : Prop where
  /-- The body needs no trimming. -/
  trimmed : Text.trim c.body = c.body
  /-- The body is one line. -/
  line : '\n' ∉ c.body
  /-- The body ends in no marker, unless the command may be cached. -/
  unmarked : c.cache = true ∨ ¬ cacheMarker <:+ c.body ∧ ¬ legacyCacheMarker <:+ c.body
  /-- Only the blank command has no instruction. -/
  blank : c.instruction = none → c = Command.blank

variable {c : Command} {line : Text}

/-- A line without an instruction is read as the blank command. -/
theorem eq_blank_of_parse (h : parse line = .ok c) (hc : c.instruction = none) : c = blank := by
  unfold parse at h
  split at h
  · exact (Except.ok.inj h).symm
  · split at h
    next i _ =>
      have hsome (rest : Text) : (ofInstruction i rest).instruction = some i := by
        unfold ofInstruction
        split <;> rfl
      rw [Except.ok.injEq] at h
      rw [← h, hsome] at hc
      simp at hc
    · simp at h

/-- **What one line reads as.** -/
theorem isSound_of_parse (h : parse line = .ok c) (hline : '\n' ∉ line) : c.IsSound := by
  have hnormal : c.IsNormal := isNormal_of_parse h
  refine ⟨hnormal.trimmed, fun hm => hline ((body_infix_of_parse h).mem hm), ?_,
    eq_blank_of_parse h⟩
  cases hcache : c.cache with
  | true => exact .inl rfl
  | false =>
    obtain ⟨hlegacy, hmarker⟩ := beforeMarker?_eq_none_iff.1 (hnormal.unmarked hcache)
    exact .inr ⟨hmarker, hlegacy⟩

/-- A copy is read from the text of its original, which is one line if the body is. -/
theorem isSound_clone (h : '\n' ∉ c.body) : c.clone.IsSound :=
  isSound_of_parse (parse_text c) (newline_notMem_text h)

end Command

/-! ### Recipes -/

namespace Recipe

/-- The fields of a recipe of this kind belong together. -/
structure IsSound (kind : RecipeKind) (r : Recipe) : Prop where
  /-- It was read from a text exactly if it keeps one. -/
  fromText : r.fromText = true ↔ ∃ text, r.source = some text
  /-- The text is not empty. -/
  source : r.source ≠ some []
  /-- Without a text it says nothing. -/
  unread : r.source = none → r.name = [] ∧ r.commands = [] ∧ r.hasBootstrap = false ∧
    r.legacyAdd = false ∧ r.fromText = false
  /-- An SSH key goes to its place. -/
  sshKey : kind = .sshKey → r.path = Kind.sshKeyPath
  /-- Its commands were read from lines. -/
  commands : ∀ c ∈ r.commands, c.IsSound

variable {kind : RecipeKind} {r : Recipe}

theorem isSound_blank (kind : RecipeKind) (id : Text) : (blank kind id).IsSound kind where
  fromText := by simp [blank]
  source := by simp [blank]
  unread _ := ⟨rfl, rfl, rfl, rfl, rfl⟩
  sshKey hkind := if_pos hkind
  commands := by simp [blank]

theorem isSound_of_parse {id : Text} {source : Option Text} (h : parse kind id source = .ok r) :
    r.IsSound kind := by
  have hcommands : ∀ c ∈ r.commands, c.IsSound := by
    intro c hc
    obtain ⟨line, hline, hparse⟩ := isRead_of_parse h c hc
    exact Command.isSound_of_parse hparse (Bootstrap.newline_notMem_migrate hline)
  cases source with
  | none =>
    rw [parse, Except.ok.injEq] at h
    exact h ▸ isSound_blank kind id
  | some text =>
    cases text with
    | nil =>
      rw [parse, Except.ok.injEq] at h
      exact h ▸ isSound_blank kind id
    | cons a text =>
      obtain ⟨header, commands, -, -, rfl⟩ := parseText_eq_ok_iff.1 h
      exact {
        fromText := by simp [ofParts]
        source := by simp [ofParts]
        unread := by simp [ofParts]
        sshKey := fun hkind => if_pos hkind
        commands := hcommands }

/-- **A copy of a sound recipe is sound.** -/
theorem IsSound.clone (h : r.IsSound kind) : r.clone.IsSound kind where
  fromText := h.fromText
  source := h.source
  unread hsource := by
    obtain ⟨hname, hcommands, hflags⟩ := h.unread hsource
    exact ⟨hname, by rw [Recipe.clone, hcommands, List.map_nil], hflags⟩
  sshKey := h.sshKey
  commands := by
    intro c hc
    obtain ⟨d, hd, rfl⟩ := List.mem_map.1 hc
    exact Command.isSound_clone (h.commands d hd).line

end Recipe

/-! ### Lists of packages -/

namespace Packages

/-- The fields of a list of packages belong together. -/
structure IsSound (p : Packages) : Prop where
  /-- It was read from a text exactly if it keeps one. -/
  fromText : p.fromText = true ↔ ∃ text, p.source = some text
  /-- The text is not empty. -/
  source : p.source ≠ some []
  /-- Without a text it says nothing. -/
  unread : p.source = none → p.packageList = [] ∧ p.fromText = false
  /-- The names have one space between each two. -/
  packageList : p.packageList = [' '].intercalate p.names

theorem isSound_parse (id : Text) (source : Option Text) : (parse id source).IsSound := by
  have hblank : (blank id).IsSound := by
    refine ⟨by simp [blank], by simp [blank], fun _ => ⟨rfl, rfl⟩, ?_⟩
    simp [blank, names, Text.words_nil]
  cases source with
  | none => exact hblank
  | some text =>
    cases text with
    | nil => exact hblank
    | cons a text =>
      refine ⟨by simp [parse], by simp [parse], by simp [parse], ?_⟩
      exact (normalize_normalize _).symm

end Packages

/-! ### Cards -/

namespace Card

/-- The fields of a card belong together. -/
def IsSound : Card → Prop
  | recipe kind r => r.IsSound kind
  | packages p => p.IsSound

/-- The card was made without a text, from one, or as one of the cards of a document, and copied any
number of times since. -/
inductive Made : Card → Prop
  | blank (kind : Kind) (ids : IdSupply) : Made (blank kind ids.next)
  | read {kind : Kind} {source : Option Text} {ids : IdSupply} {card : Card}
      (h : (read kind source ids).result = .ok card) : Made card
  | document {text : Text} {ids : IdSupply} {cards : List Card} {card : Card}
      (h : (Document.parse text ids).result = .ok cards) (hcard : card ∈ cards) : Made card
  | clone {card : Card} (h : Made card) : Made card.clone
  | duplicate {card : Card} (h : Made card) (ids : IdSupply) : Made (card.duplicate ids.next)

variable {card : Card}

theorem isSound_blank (kind : Kind) (id : Text) : (blank kind id).IsSound := by
  cases kind with
  | recipe kind => exact Recipe.isSound_blank kind id
  | packages => exact Packages.isSound_parse id none

theorem isSound_of_parse {kind : Kind} {id : Text} {source : Option Text}
    (h : parse kind id source = .ok card) : card.IsSound := by
  rcases eq_of_parse h with ⟨k, r, rfl, hr, rfl⟩ | ⟨rfl, rfl⟩
  · exact Recipe.isSound_of_parse hr
  · exact Packages.isSound_parse id source

theorem IsSound.clone (h : card.IsSound) : card.clone.IsSound := by
  cases card with
  | recipe kind r => exact Recipe.IsSound.clone h
  | packages p => exact h

/-- The identifier has no part in it. -/
theorem IsSound.withId (h : card.IsSound) (id : Text) : (card.withId id).IsSound := by
  cases card with
  | recipe kind r =>
    have hr : r.IsSound kind := h
    exact ⟨hr.fromText, hr.source, hr.unread, hr.sshKey, hr.commands⟩
  | packages p =>
    have hp : p.IsSound := h
    exact ⟨hp.fromText, hp.source, hp.unread, hp.packageList⟩

/-- **Cards that are made are sound.** -/
theorem isSound_of_made (h : card.Made) : card.IsSound := by
  -- on how the card was made: copies are sound as their originals are
  induction h with
  | blank kind ids => exact isSound_blank kind ids.next
  | read h => exact isSound_of_parse h
  | document h hcard =>
    obtain ⟨blocks, -, hreads⟩ := Document.parse_eq_ok_iff.1 h
    obtain ⟨kind, id, source, hparse⟩ := hreads.exists_parse hcard
    exact isSound_of_parse hparse
  | clone _ ih => exact ih.clone
  | duplicate _ ids ih => exact ih.clone.withId ids.next

/-- A document with an SSH key that its header puts somewhere else. -/
def keyDocument : Text :=
  "#Start: SSH Key\nADD key home/.ssh\n\nRUN  ls # runnable-cache\n  #End".toList

/-- The card in this document. -/
def key : Card := recipe .sshKey {
  id := "id-1".toList
  name := "key".toList
  path := Kind.sshKeyPath
  commands := [⟨some .run, "ls".toList, true⟩]
  hasBootstrap := false
  legacyAdd := true
  fromText := true
  source := some "ADD key home/.ssh\n\nRUN  ls # runnable-cache".toList }

/-- A duplicate of a copy of a card of a document is sound. -/
theorem isSound_duplicate_key :
    (Document.parse keyDocument IdSupply.sequential).result = .ok [key] ∧
      (key.clone.duplicate "id-2".toList).IsSound := by
  have hread : (Document.parse keyDocument IdSupply.sequential).result = .ok [key] := by
    decide +kernel
  have hmade : key.Made := .document hread List.mem_cons_self
  exact ⟨hread, isSound_of_made (.duplicate (.clone hmade) (IdSupply.sequential.skip 1))⟩

end Card

end BuildCards
