import BuildCards.Proofs.Rendering

/-!
# Reading what was written

Cards can be changed after they were read, and a document of such cards is read again.  Each card
with a block comes back in a settled form (`Card.reread`), in which names and paths are trimmed,
paths that were left open are filled in, and commands with nothing to say are gone.

A recipe comes back in this way if it is *faithful* (`Recipe.IsFaithful`): nothing in it breaks a
line, no line holds the former name of the bootstrap script, and its first command is not taken for
the bootstrap script unless it is.  **Main theorem** (`Document.parse_render`): a document of cards
whose recipes are faithful reads as the settled forms of the cards that have a block.
-/

namespace BuildCards

namespace Recipe

/-! ### Faithful recipes -/

/-- The recipe is read as it is written. -/
structure IsFaithful (kind : RecipeKind) (r : Recipe) : Prop where
  /-- The name that is written is one line. -/
  name : '\n' ∉ r.renderedName
  /-- The path that is written is one line. -/
  path : '\n' ∉ r.renderedPath kind
  /-- The commands are one line each. -/
  bodies : ∀ c ∈ r.commands, '\n' ∉ c.body
  /-- No line would be migrated. -/
  present : ∀ l ∈ r.renderedLines kind, Bootstrap.holdsFormerName l = false
  /-- The first line does not look like the bootstrap script, unless it is. -/
  bootstrap : r.hasBootstrap = true ∨ Bootstrap.opens (r.renderedLines kind) = false

/-- The recipe that the block of a recipe reads as. -/
def reread (kind : RecipeKind) (id : Text) (r : Recipe) : Recipe where
  id := id
  name := r.renderedName
  path := r.renderedPath kind
  commands := (r.ownCommands kind).filter fun c => !c.text.isEmpty
  hasBootstrap := r.hasBootstrap
  legacyAdd := false
  fromText := true
  source := some (r.content kind)

variable {kind : RecipeKind} {r : Recipe}

theorem isNormal_of_mem_ownCommands {c : Command} (h : c ∈ r.ownCommands kind) : c.IsNormal := by
  rw [ownCommands] at h
  split at h
  · rw [List.mem_singleton] at h
    exact h ▸ isNormal_sshKeyCommand r.name
  · obtain ⟨d, -, rfl⟩ := List.mem_map.1 h
    exact d.isNormal_clone

/-- The lines of normal commands read as those that say something. -/
theorem forall₂_parse_texts {cs : List Command} (h : ∀ c ∈ cs, c.IsNormal) :
    List.Forall₂ (fun line c => Command.parse line = .ok c) (Command.texts cs)
      (cs.filter fun c => !c.text.isEmpty) := by
  have htexts : Command.texts cs = (cs.filter fun c => !c.text.isEmpty).map Command.text := by
    rw [Command.texts, List.filter_map]
    rfl
  rw [htexts, List.forall₂_map_left_iff, List.forall₂_same]
  intro c hc
  obtain ⟨hmem, hne⟩ := List.mem_filter.1 hc
  exact (h c hmem).parse_text (by simpa using hne)

theorem IsFaithful.newline_notMem_renderedLines (h : r.IsFaithful kind) {l : Text}
    (hl : l ∈ r.renderedLines kind) : '\n' ∉ l := by
  rcases mem_texts_of_mem_renderedLines hl with hl | hl
  · exact newline_notMem_of_mem_texts_bootstrap hl
  · obtain ⟨-, c, hc, rfl⟩ := Command.mem_texts.1 hl
    refine Command.newline_notMem_text ?_
    rw [ownCommands] at hc
    split at hc
    · rw [List.mem_singleton] at hc
      rw [hc, newline_notMem_body_sshKeyCommand]
      exact h.name
    · obtain ⟨d, hd, rfl⟩ := List.mem_map.1 hc
      exact Command.newline_notMem_clone (h.bodies d hd)

theorem IsFaithful.newline_notMem_contentLines (h : r.IsFaithful kind) :
    ∀ l ∈ r.contentLines kind, '\n' ∉ l := by
  intro l hl
  rw [contentLines] at hl
  rcases List.mem_cons.1 hl with rfl | hl
  · exact AddHeader.newline_notMem_text _ _
  · split at hl
    · simp at hl
    · rcases List.mem_cons.1 hl with rfl | hl
      · exact newline_notMem_directoryLine_iff.2 h.path
      · exact h.newline_notMem_renderedLines hl

/-- The bootstrap script is found again exactly if the recipe has it. -/
theorem IsFaithful.opens_renderedLines (h : r.IsFaithful kind) :
    Bootstrap.opens (r.renderedLines kind) = r.hasBootstrap := by
  cases hboot : r.hasBootstrap with
  | false =>
    refine h.bootstrap.resolve_left fun ht => ?_
    rw [hboot] at ht
    exact absurd ht (by decide)
  | true =>
    rw [renderedLines_eq, hboot, if_pos rfl]
    rfl

theorem IsFaithful.map_migrate (h : r.IsFaithful kind) :
    (r.renderedLines kind).map Bootstrap.migrate = r.renderedLines kind :=
  Bootstrap.map_migrate_eq_self h.present

/-- **The lines of a faithful recipe hold its commands.** -/
theorem IsFaithful.holdsCommands (h : r.IsFaithful kind) : HoldsCommands (r.renderedLines kind)
    ((r.ownCommands kind).filter fun c => !c.text.isEmpty) := by
  have hown : (if Bootstrap.opens (r.renderedLines kind) then (r.renderedLines kind).drop 2
      else r.renderedLines kind) = Command.texts (r.ownCommands kind) := by
    rw [h.opens_renderedLines, renderedLines_eq]
    cases r.hasBootstrap <;> rfl
  have hfilter : (Command.texts (r.ownCommands kind)).filter (fun line => ¬ Text.IsBlank line) =
      Command.texts (r.ownCommands kind) := by
    refine List.filter_eq_self.2 fun l hl => ?_
    obtain ⟨hne, c, -, rfl⟩ := Command.mem_texts.1 hl
    have hblank : ¬ Text.IsBlank c.text := fun hb =>
      hne (c.trim_text ▸ Text.trim_eq_nil_iff.2 hb)
    simpa using hblank
  rw [HoldsCommands, h.map_migrate, ownLines, hown, hfilter]
  exact forall₂_parse_texts fun c hc => isNormal_of_mem_ownCommands hc

theorem drop_contentLines : ((r.contentLines kind).drop 1).drop 1 = r.renderedLines kind := by
  rw [contentLines]
  split
  next hnil => rw [hnil]; rfl
  next => rfl

/-- **A faithful recipe reads as its settled form.** -/
theorem IsFaithful.parse_content (h : r.IsFaithful kind) (id : Text) :
    parse kind id (some (r.content kind)) = .ok (r.reread kind id) := by
  have hlines := h.newline_notMem_contentLines
  have hpath : (if kind = .sshKey then Kind.sshKeyPath else r.renderedPath kind) =
      r.renderedPath kind := by
    split
    next hkind => rw [hkind, renderedPath_sshKey]
    next => rfl
  have hcons : r.contentLines kind = AddHeader.text r.renderedName (r.renderedPath kind) ::
      (r.contentLines kind).drop 1 := rfl
  rw [content_eq, hcons, parse_joinLines_iff fun l hl => hlines l (List.mem_of_mem_drop hl)]
  refine ⟨_, by rw [drop_contentLines]; exact h.holdsCommands, ?_⟩
  rw [drop_contentLines, h.map_migrate, h.opens_renderedLines, hpath, ← hcons, ← content_eq]
  rfl

end Recipe

/-! ### Lists of packages -/

namespace Packages

variable (p : Packages)

/-- The line that installs the packages. -/
def line : Text := preamble ++ normalize p.packageList

theorem newline_notMem_line : '\n' ∉ p.line := by
  have hpreamble : '\n' ∉ preamble := by decide
  simp [line, hpreamble, newline_notMem_normalize]

theorem trimStart_line : Text.trimStart p.line = p.line := by
  have hcons : p.line = 'R' :: (preamble.tail ++ normalize p.packageList) := rfl
  rw [hcons]
  exact Text.trimStart_cons (by decide)

theorem trimEnd_line (h : normalize p.packageList ≠ []) : Text.trimEnd p.line = p.line := by
  have hblank : ¬ Text.IsBlank (normalize p.packageList) := by
    rw [← Text.trimEnd_eq_nil_iff, trimEnd_normalize]
    exact h
  rw [line, Text.trimEnd_append hblank, trimEnd_normalize]

theorem plain_line (h : normalize p.packageList ≠ []) : Block.Plain p.line := by
  have hcons : p.line = 'R' :: (preamble.tail ++ normalize p.packageList) := rfl
  refine Block.plain_of_head ?_ ?_
  · rw [Text.trim, p.trimStart_line, p.trimEnd_line h]
  · rw [hcons, List.head?_cons]
    decide

theorem render_of_ne_nil (h : normalize p.packageList ≠ []) :
    p.render = Block.wrap .packages (Text.joinLines [p.line]) := by
  simp [render, h, Text.joinLines, line]

/-- The lines of the block of a list. -/
theorem lines_render (h : normalize p.packageList ≠ []) :
    Text.lines p.render = [Block.startLine .packages, p.line, Block.endMarker] := by
  rw [p.render_of_ne_nil h]
  exact Block.lines_wrap_joinLines (List.cons_ne_nil _ _)
    (List.forall_mem_singleton.2 p.newline_notMem_line)
    (List.forall_mem_singleton.2 (p.trimEnd_line h))

theorem source_line (kind : Kind) (n m : Nat) :
    Block.source ⟨kind, n, [p.line], m⟩ = some p.line := by
  have hjoin : Text.joinLines [p.line] = p.line := by simp [Text.joinLines]
  have hblank : ¬ Text.IsBlank p.line := fun hb => absurd (hb 'R' List.mem_cons_self) (by decide)
  rw [Block.source, hjoin]
  exact if_neg hblank

/-- The list that the block of a list reads as. -/
def reread (id : Text) : Packages := ⟨id, normalize p.packageList, true, some p.line⟩

theorem withoutPreamble_line : withoutPreamble p.line = ' ' :: normalize p.packageList := by
  have hline : p.line = [] ++ (stem ++ ' ' :: normalize p.packageList) := by
    rw [line, preamble_eq, List.append_assoc]
    rfl
  rw [hline]
  exact withoutPreamble_of_isBlank (by decide) _

/-- **A list of packages reads as its settled form.** -/
theorem parse_line (id : Text) : parse id (some p.line) = p.reread id := by
  have hlist : normalize (' ' :: normalize p.packageList) = normalize p.packageList := by
    rw [normalize, Text.words_cons_of_isBlank (by decide)]
    exact normalize_normalize _
  have hparse : parse id (some p.line) =
      ⟨id, normalize (withoutPreamble p.line), true, some p.line⟩ := by
    have hcons : p.line = 'R' :: (preamble.tail ++ normalize p.packageList) := rfl
    rw [hcons]
    rfl
  rw [hparse, withoutPreamble_line, hlist, reread]

end Packages

/-! ### Documents -/

namespace Card

/-- A recipe is read as it is written; lists of packages always are. -/
def IsFaithful : Card → Prop
  | recipe kind r => r.IsFaithful kind
  | packages _ => True

/-- The card that the block of a card reads as. -/
def reread (id : Text) : Card → Card
  | recipe kind r => recipe kind (r.reread kind id)
  | packages p => packages (p.reread id)

/-- The cards that the blocks of cards read as, with the next identifiers of the supply. -/
def rereadAll (ids : IdSupply) : List Card → List Card
  | [] => []
  | card :: rest =>
    if card.render.isEmpty then rereadAll ids rest
    else card.reread ids.next :: rereadAll (ids.skip 1) rest

/-- **The block of a faithful card holds its settled form.** -/
theorem IsFaithful.exists_block {card : Card} (h : card.IsFaithful) (hne : card.render ≠ [])
    (n : Nat) :
    ∃ b : Block, Layout n (Text.lines card.render) [b] ∧
      ∀ id, parse b.kind id b.source = .ok (card.reread id) := by
  cases card with
  | recipe kind r =>
    have hfaithful : r.IsFaithful kind := h
    have hlines : Text.lines (render (recipe kind r)) =
        Block.startLine kind :: (r.contentLines kind ++ Block.endMarker :: []) :=
      r.lines_render_of_notMem kind hfaithful.newline_notMem_contentLines
    refine ⟨⟨kind, n, r.contentLines kind, n + (r.contentLines kind).length + 1⟩, ?_, fun id => ?_⟩
    · rw [hlines]
      exact .block (Block.starts_startLine kind) (Block.trim_label kind)
        (fun l hl => Recipe.plain_of_mem_contentLines hl) Block.stops_endMarker .nil
    · have hsource : Block.source ⟨kind, n, r.contentLines kind,
          n + (r.contentLines kind).length + 1⟩ = some (r.content kind) := by
        rw [Recipe.content_eq]
        exact Recipe.source_header _ _ _ _ _ _
      rw [hsource, parse, hfaithful.parse_content id]
      rfl
  | packages p =>
    have hlist : Packages.normalize p.packageList ≠ [] := fun hnil =>
      hne (by simp [render, Packages.render, hnil])
    refine ⟨⟨.packages, n, [p.line], n + 1 + 1⟩, ?_, fun id => ?_⟩
    · have hlines : Text.lines (render (packages p)) =
          Block.startLine .packages :: ([p.line] ++ Block.endMarker :: []) := p.lines_render hlist
      rw [hlines]
      exact .block (Block.starts_startLine .packages) (Block.trim_label .packages)
        (List.forall_mem_singleton.2 (p.plain_line hlist)) Block.stops_endMarker .nil
    · rw [p.source_line]
      exact congrArg (Except.ok ∘ packages) (p.parse_line id)

end Card

namespace Document

/-- **Reading what was written.**  A document of faithful cards is read, as the settled forms of the
cards that have a block, in their order. -/
theorem parse_render {cards : List Card} (h : ∀ card ∈ cards, card.IsFaithful) (ids : IdSupply) :
    (parse (render cards) ids).result = .ok (Card.rereadAll ids cards) := by
  -- the blocks of the cards stand one after the other, wherever the first begins
  have hblocks (n : Nat) (ids : IdSupply) : ∃ blocks,
      Layout n (cards.flatMap fun card => Text.lines card.render) blocks ∧
        ReadsAs ids blocks (Card.rereadAll ids cards) := by
    induction cards generalizing n ids with
    | nil => exact ⟨[], .nil, .nil⟩
    | cons card cards ih =>
      have ih' := ih fun c hc => h c (List.mem_cons_of_mem _ hc)
      by_cases hcard : card.render = []
      · obtain ⟨blocks, hlayout, hreads⟩ := ih' n ids
        refine ⟨blocks, ?_, ?_⟩
        · simpa [hcard, Text.lines_nil] using hlayout
        · simpa [Card.rereadAll, hcard] using hreads
      · obtain ⟨b, hlayout, hparse⟩ := (h card List.mem_cons_self).exists_block hcard n
        obtain ⟨blocks, hlayout', hreads⟩ := ih' (n + (Text.lines card.render).length) (ids.skip 1)
        refine ⟨b :: blocks, hlayout.append hlayout', ?_⟩
        have hall : Card.rereadAll ids (card :: cards) =
            card.reread ids.next :: Card.rereadAll (ids.skip 1) cards := by
          simp [Card.rereadAll, hcard]
        rw [hall]
        exact .cons (hparse ids.next) hreads
  rw [parse_eq_ok_iff, lines_render]
  exact hblocks 1 ids

/-- Cards that were not read: a repository with a blank command and a path left open, a list without
packages, and an SSH key. -/
def handmade : List Card :=
  [.recipe .repository {
      id := []
      name := " my \"app\"".toList
      path := " ".toList
      commands := [⟨some .run, " make ".toList, true⟩, ⟨some .env, [], false⟩]
      hasBootstrap := true
      legacyAdd := true
      fromText := false
      source := none },
    .packages (Packages.blank []),
    .recipe .sshKey (Recipe.blank .sshKey [])]

theorem isFaithful_handmade : ∀ card ∈ handmade, card.IsFaithful := by
  refine List.forall_mem_cons.2 ⟨?_, List.forall_mem_cons.2 ⟨trivial, ?_⟩⟩
  · exact ⟨by decide, by decide, by decide, by decide, .inl rfl⟩
  · refine List.forall_mem_singleton.2 ?_
    exact ⟨by decide, by decide, by decide, by decide +kernel, .inr (by decide +kernel)⟩

/-- What comes back of them. -/
theorem parse_render_handmade : ∃ app key,
    (parse (render handmade) .sequential).result =
      .ok [.recipe .repository app, .recipe .sshKey key] ∧
    app.name = "my \"app\"".toList ∧ app.path = app.name ∧
    app.commands = [⟨some .run, "make".toList, true⟩] :=
  ⟨_, _, parse_render isFaithful_handmade .sequential, by decide, by decide, by decide⟩

end Document

end BuildCards
