import BuildCards.Proofs.Settled

/-!
# Writing, reading and writing again

A document that was read is written in a normal form.  **Main theorem** (`Document.stable_iff`):
reading that form succeeds and writing what is read gives it again exactly if every card of the
document is settled.

If all cards are settled, the block of each is read as a card that is written in the same way
(`Card.IsSettled.exists_readsAs`), and perhaps as further cards that are not written.  For the other
direction the document is read block by block (`Card.exists_rereads`).  Each block gives at least
one card that is written (`Card.Rereads.length_written_le`), so if the whole is the same each block
gives exactly one, and the lines of documents tell the lines of blocks.
-/

namespace BuildCards

namespace Card

variable {cards : List Card}

/-! ### Reading a document block by block -/

/-- The lines of the card, somewhere in a document, are read as these cards. -/
def Rereads (card : Card) (again : List Card) : Prop :=
  ∃ n blocks ids, Layout n (Text.lines card.render) blocks ∧ ReadsAs ids blocks again

/-- A document that was written is read card by card: no block of what is read goes beyond the
lines of one card. -/
theorem exists_rereads {n : Nat} {ids : IdSupply} {blocks : List Block} {again : List Card}
    (h : Layout n (cards.flatMap fun card => Text.lines card.render) blocks)
    (hreads : ReadsAs ids blocks again) :
    ∃ parts, again = parts.flatten ∧ List.Forall₂ Rereads cards parts := by
  induction cards generalizing n ids blocks again with
  | nil =>
    cases h with
    | nil =>
      cases hreads with
      | nil => exact ⟨[], rfl, .nil⟩
  | cons card cards ih =>
    rw [List.flatMap_cons] at h
    rcases card.render_eq_nil_or_wrap with hnil | ⟨content, hcontent⟩
    · have hlines : Text.lines card.render = [] := by rw [hnil, Text.lines_nil]
      rw [hlines, List.nil_append] at h
      obtain ⟨parts, rfl, hparts⟩ := ih h hreads
      refine ⟨[] :: parts, rfl, .cons ⟨n, [], ids, ?_, .nil⟩ hparts⟩
      rw [hlines]
      exact .nil
    · -- the lines of the card end in an end marker
      have hlines : Text.lines card.render = (Block.startLine card.kind ::
          (content.splitOn '\n').map Text.dropReturn) ++ [Block.endMarker] := by
        rw [hcontent, Block.lines_wrap]
        rfl
      rw [hlines, List.append_assoc] at h
      obtain ⟨before, after, rfl, hbefore, hafter⟩ := h.split Block.stops_endMarker
      obtain ⟨part, rest, rfl, hpart, hrest⟩ := hreads.split
      obtain ⟨parts, rfl, hparts⟩ := ih hafter hrest
      refine ⟨part :: parts, rfl, .cons ⟨n, before, ids, ?_, hpart⟩ hparts⟩
      rw [hlines]
      exact hbefore

/-! ### What is read again -/

variable {kind : RecipeKind} {r : Recipe} {again : List Card}

theorem isSilent_of_mem {ids : IdSupply} {blocks : List Block} (h : ReadsAs ids blocks again)
    (hr : ∀ c ∈ again, c.render = []) : ∀ b ∈ blocks, b.IsSilent := by
  induction h with
  | nil => simp
  | @cons ids b blocks card cards hcard _ ih =>
    rw [List.forall_mem_cons] at hr ⊢
    exact ⟨⟨_, card, hcard, hr.1⟩, ih hr.2⟩

/-- The first block in the lines of a recipe begins where they do.  Its card has the name and the
path that are written. -/
theorem Rereads.exists_first (h : (recipe kind r).Rereads again) :
    ∃ body stop rest r' others,
      r.lowerLines kind ++ [Block.endMarker] = body ++ stop :: rest ∧
        (∀ l ∈ body, Block.Plain l) ∧ Block.Stops stop ∧ again = recipe kind r' :: others ∧
        r'.IsRead ∧ r'.name = r.renderedName ∧
        (r'.path = if kind = .sshKey then Kind.sshKeyPath else r.renderedPath kind) ∧
        Recipe.HoldsCommands (body.drop 1) r'.commands ∧
        r'.hasBootstrap = Bootstrap.opens ((body.drop 1).map Bootstrap.migrate) ∧
        ((∀ c ∈ others, c.render = []) → SilentLines rest) := by
  obtain ⟨n, blocks, ids, hlayout, hreads⟩ := h
  have hlines : Text.lines (render (recipe kind r)) = _ := r.lines_render_eq kind
  have hnewline : ∀ l ∈ Text.lines (render (recipe kind r)), '\n' ∉ l := fun l hl =>
    Text.newline_notMem_of_mem_lines hl
  rw [hlines] at hlayout hnewline
  obtain ⟨kind', body, stop, rest, blocks', hcut, hkind, hbody, hstop, rfl, hrest⟩ :=
    hlayout.of_starts (Block.starts_startLine kind)
  rw [← Block.trim_label] at hkind
  obtain rfl := Kind.label_injective hkind
  cases body with
  | nil =>
    rw [List.nil_append, List.cons.injEq] at hcut
    exact absurd (hcut.1 ▸ hstop) (Recipe.plain_header _ _).2
  | cons header body =>
    rw [List.cons_append, List.cons.injEq] at hcut
    obtain ⟨rfl, hcut⟩ := hcut
    obtain _ | @⟨_, _, _, card, others, hcard, hothers⟩ := hreads
    have hread := isRead_of_parse hcard
    have hbody' : ∀ l ∈ body, '\n' ∉ l := by
      intro l hl
      refine hnewline l (List.mem_cons_of_mem _ (List.mem_cons_of_mem _ ?_))
      rw [hcut]
      exact List.mem_append_left _ hl
    rw [Recipe.source_header] at hcard
    cases hparse : Recipe.parse kind ids.next
        (some (Text.joinLines (AddHeader.text r.renderedName (r.renderedPath kind) :: body))) with
    | error fault => simp [parse, hparse, Except.map] at hcard
    | ok r' =>
      simp only [parse, hparse, Except.map, Except.ok.injEq] at hcard
      subst hcard
      obtain ⟨commands, hcommands, hr'⟩ := (Recipe.parse_joinLines_iff hbody').1 hparse
      refine ⟨body, stop, rest, r', others, hcut, fun l hl => hbody l (List.mem_cons_of_mem _ hl),
        hstop, rfl, hread, ?_⟩
      subst hr'
      refine ⟨rfl, rfl, hcommands, rfl, fun hsilent => ?_⟩
      exact exists_layout_isSilent ⟨blocks', hrest, isSilent_of_mem hothers hsilent⟩ 1

/-- A recipe that is read as itself, and as nothing else that would be written, is settled. -/
theorem Rereads.isKept (h : (recipe kind r).Rereads again) (hread : r.IsRead)
    (hwritten : ((written again).map fun card => Text.lines card.render) =
      [Text.lines (recipe kind r).render]) : r.IsKept kind := by
  obtain ⟨body, stop, rest, r', others, hcut, hbody, hstop, rfl, hread', hname, hpath, hcommands,
    hboot, hsilent⟩ := h.exists_first
  rw [written_cons (render_recipe_ne_nil kind r'), List.map_cons, List.cons.injEq,
    List.map_eq_nil_iff] at hwritten
  have hname' := Recipe.renderedName_congr hname
  have hpath' := Recipe.renderedPath_congr hname hpath
  have hlines : Text.lines (r'.render kind) = Text.lines (r.render kind) := hwritten.1
  rw [r'.lines_render_eq kind, r.lines_render_eq kind, List.cons.injEq, List.cons.injEq] at hlines
  have hsame := hread'.renderedLines_eq_of_lowerLines hread hname' hpath' hlines.2.2
  refine ⟨body, stop, rest, hcut, hbody, hstop, ⟨r'.commands, hcommands, ?_⟩,
    hsilent fun c hc => ?_⟩
  · rw [← hsame]
    exact Recipe.renderedLines_congr rfl hboot.symm hname'.symm
  · by_cases hrender : c.render = []
    · exact hrender
    · have hmem := mem_written.2 ⟨hc, hrender⟩
      rw [hwritten.2] at hmem
      simp at hmem

/-- The lines of a card with a block are read as some card with a block. -/
theorem Rereads.length_written_le {card : Card} (h : card.Rereads again) :
    (written [card]).length ≤ (written again).length := by
  cases card with
  | recipe kind r =>
    obtain ⟨body, stop, rest, r', others, -, -, -, rfl, -⟩ := h.exists_first
    rw [written_cons (render_recipe_ne_nil kind r), written_cons (render_recipe_ne_nil kind r')]
    simp [written]
  | packages p =>
    by_cases hlist : Packages.normalize p.packageList = []
    · have hnil : written [packages p] = [] := by simp [written, render, Packages.render, hlist]
      rw [hnil]
      exact Nat.zero_le _
    · obtain ⟨n, blocks, ids, hlayout, hreads⟩ := h
      have hlines : Text.lines (render (packages p)) = _ := p.lines_render hlist
      rw [hlines] at hlayout
      obtain ⟨kind', body, stop, rest, blocks', hcut, hkind, hbody, hstop, rfl, hrest⟩ :=
        hlayout.of_starts (Block.starts_startLine .packages)
      rw [← Block.trim_label] at hkind
      obtain rfl := Kind.label_injective hkind
      -- there is nothing but the line of the list before the end marker
      obtain ⟨rfl, -, -⟩ := Block.append_stop_inj
        (List.forall_mem_singleton.2 (p.plain_line hlist)) hbody Block.stops_endMarker hstop hcut
      obtain _ | @⟨_, _, _, card, others, hcard, hothers⟩ := hreads
      have hcard' : card = packages (p.reread ids.next) := by
        rw [p.source_line] at hcard
        simpa [parse, p.parse_line] using hcard.symm
      have hne : card.render ≠ [] := by
        have hlist' : Packages.normalize (p.reread ids.next).packageList ≠ [] := by
          rw [Packages.reread, Packages.normalize_normalize]
          exact hlist
        have hrender : render (packages (p.reread ids.next)) = _ :=
          (p.reread ids.next).render_of_ne_nil hlist'
        rw [hcard', hrender]
        exact Block.wrap_ne_nil _ _
      have hone : (written [packages p]).length ≤ 1 := List.length_filter_le _ _
      rw [written_cons hne, List.length_cons]
      omega

/-- A card that is read as itself, and as nothing else that would be written, is settled. -/
theorem Rereads.isSettled {card : Card} (h : card.Rereads again) (hread : card.IsRead)
    (hwritten : ((written again).map fun card => Text.lines card.render) =
      (written [card]).map fun card => Text.lines card.render) : card.IsSettled := by
  cases card with
  | packages p => exact trivial
  | recipe kind r =>
    rw [written_cons (render_recipe_ne_nil kind r)] at hwritten
    exact (Recipe.IsRead.isSettled_iff hread).2 (h.isKept hread hwritten)

theorem length_written_le_of_forall₂ {parts : List (List Card)}
    (h : List.Forall₂ Rereads cards parts) :
    (written cards).length ≤ (written parts.flatten).length := by
  induction h with
  | nil => exact Nat.le_refl _
  | @cons card part cards parts hcard _ ih =>
    rw [← List.singleton_append, List.flatten_cons, written_append, written_append,
      List.length_append, List.length_append]
    exact Nat.add_le_add hcard.length_written_le ih

/-- If as much is written of what is read as was written, each card is read as one that is written
as it is. -/
theorem forall₂_written {parts : List (List Card)} (h : List.Forall₂ Rereads cards parts)
    (heq : ((written parts.flatten).map fun card => Text.lines card.render) =
      (written cards).map fun card => Text.lines card.render) :
    List.Forall₂ (fun card part => card.Rereads part ∧
      ((written part).map fun card => Text.lines card.render) =
        (written [card]).map fun card => Text.lines card.render) cards parts := by
  induction h with
  | nil => exact .nil
  | @cons card part cards parts hcard hcards ih =>
    have hfirst := hcard.length_written_le
    have hrest := length_written_le_of_forall₂ hcards
    rw [← List.singleton_append (x := card), List.flatten_cons, written_append, written_append,
      List.map_append, List.map_append] at heq
    have hlen := congrArg List.length heq
    simp only [List.length_append, List.length_map] at hlen
    obtain ⟨hpart, hparts⟩ := List.append_inj heq (by simp only [List.length_map]; omega)
    exact .cons ⟨hcard, hpart⟩ (ih hparts)

/-! ### What is written again -/

theorem exists_readsAs_of_isSilent {blocks : List Block} (h : ∀ b ∈ blocks, b.IsSilent)
    (ids : IdSupply) : ∃ cards, ReadsAs ids blocks cards ∧ ∀ c ∈ cards, c.render = [] := by
  induction blocks generalizing ids with
  | nil => exact ⟨[], .nil, by simp⟩
  | cons b blocks ih =>
    rw [List.forall_mem_cons] at h
    obtain ⟨⟨id, card, hcard, hrender⟩, hblocks⟩ := h
    obtain ⟨cards, hreads, hcards⟩ := ih hblocks (ids.skip 1)
    refine ⟨card.withId ids.next :: cards, .cons ?_ hreads, ?_⟩
    · rw [parse_withId b.kind id, hcard]
      rfl
    · exact List.forall_mem_cons.2 ⟨(card.render_withId _).trans hrender, hcards⟩

/-- Below its header, lines that restore a recipe are read as one that is written as it is. -/
theorem exists_parse_of_isRestoredBy {body : List Text} (h : r.IsRestoredBy kind (body.drop 1))
    (hbody : ∀ l ∈ body, '\n' ∉ l) (id : Text) :
    ∃ r', Recipe.parse kind id (some (Text.joinLines
      (AddHeader.text r.renderedName (r.renderedPath kind) :: body))) = .ok r' ∧
        r'.render kind = r.render kind := by
  obtain ⟨commands, hcommands, hsame⟩ := h
  refine ⟨_, (Recipe.parse_joinLines_iff hbody).2 ⟨commands, hcommands, rfl⟩, ?_⟩
  refine Recipe.render_congr (Recipe.renderedName_congr rfl) (Recipe.renderedPath_congr rfl rfl) ?_
  rw [← hsame]
  exact Recipe.renderedLines_congr rfl rfl (Recipe.renderedName_congr rfl)

/-- A recipe that is kept is read as it, wherever its lines stand. -/
theorem exists_readsAs_of_isKept (h : r.IsKept kind) (n : Nat) (ids : IdSupply) :
    ∃ blocks again, Layout n (Text.lines (recipe kind r).render) blocks ∧ ReadsAs ids blocks again ∧
      (written again).map render = [(recipe kind r).render] := by
  obtain ⟨body, stop, rest, hcut, hbody, hstop, hrestored, hsilent⟩ := h
  have hlines : Text.lines (render (recipe kind r)) = _ := r.lines_render_eq kind
  rw [hcut] at hlines
  have hnewline : ∀ l ∈ body, '\n' ∉ l := by
    intro l hl
    refine Text.newline_notMem_of_mem_lines (t := render (recipe kind r)) ?_
    rw [hlines]
    simp [hl]
  obtain ⟨r', hparse, hrender⟩ := exists_parse_of_isRestoredBy hrestored hnewline ids.next
  obtain ⟨blocks, hlayout, hblocks⟩ := exists_layout_isSilent hsilent (n + (body.length + 1) + 2)
  obtain ⟨others, hothers, hnil⟩ := exists_readsAs_of_isSilent hblocks (ids.skip 1)
  refine ⟨⟨kind, n, AddHeader.text r.renderedName (r.renderedPath kind) :: body,
    n + (body.length + 1) + 1⟩ :: blocks, recipe kind r' :: others, ?_, .cons ?_ hothers, ?_⟩
  · rw [hlines]
    exact .block (Block.starts_startLine kind) (Block.trim_label kind)
      (List.forall_mem_cons.2 ⟨Recipe.plain_header _ _, hbody⟩) hstop hlayout
  · rw [Recipe.source_header, parse, hparse]
    rfl
  · have hwritten : written others = [] := by
      rw [written, List.filter_eq_nil_iff]
      intro c hc
      simp [hnil c hc]
    have hrender' : render (recipe kind r') = render (recipe kind r) := hrender
    rw [written_cons (render_recipe_ne_nil kind r'), hwritten, List.map_singleton, hrender']

/-- **A settled card is written again as it is.**  Wherever its lines stand, they are read as cards
of which just as much is written. -/
theorem IsSettled.exists_readsAs {card : Card} (h : card.IsSettled) (hread : card.IsRead) (n : Nat)
    (ids : IdSupply) :
    ∃ blocks again, Layout n (Text.lines card.render) blocks ∧ ReadsAs ids blocks again ∧
      (written again).map render = (written [card]).map render := by
  cases card with
  | recipe kind r =>
    have hkept : r.IsKept kind := (Recipe.IsRead.isSettled_iff hread).1 h
    rw [written_cons (render_recipe_ne_nil kind r)]
    exact exists_readsAs_of_isKept hkept n ids
  | packages p =>
    by_cases hnil : render (packages p) = []
    · refine ⟨[], [], ?_, .nil, by simp [written, hnil]⟩
      rw [hnil, Text.lines_nil]
      exact .nil
    · have hfaithful : (packages p).IsFaithful := trivial
      obtain ⟨b, hlayout, hparse⟩ := hfaithful.exists_block hnil n
      have hrender : render ((packages p).reread ids.next) = render (packages p) := by
        simp only [render, reread, Packages.render, Packages.reread, Packages.normalize_normalize]
      refine ⟨[b], [_], hlayout, .cons (hparse ids.next) .nil, ?_⟩
      have hne : render ((packages p).reread ids.next) ≠ [] := hrender ▸ hnil
      rw [written_cons hne, written_cons hnil, List.map_cons, List.map_cons, hrender]

/-- So are settled cards, one after the other. -/
theorem exists_readsAs_of_isSettled (hsettled : ∀ card ∈ cards, card.IsSettled)
    (hread : ∀ card ∈ cards, card.IsRead) (n : Nat) (ids : IdSupply) :
    ∃ blocks again, Layout n (cards.flatMap fun card => Text.lines card.render) blocks ∧
      ReadsAs ids blocks again ∧ (written again).map render = (written cards).map render := by
  induction cards generalizing n ids with
  | nil => exact ⟨[], [], .nil, .nil, rfl⟩
  | cons card cards ih =>
    rw [List.forall_mem_cons] at hsettled hread
    obtain ⟨blocks, part, hlayout, hreads, hpart⟩ := hsettled.1.exists_readsAs hread.1 n ids
    obtain ⟨blocks', rest, hlayout', hreads', hrest⟩ := ih hsettled.2 hread.2
      (n + (Text.lines card.render).length) (ids.skip blocks.length)
    refine ⟨blocks ++ blocks', part ++ rest, hlayout.append hlayout', hreads.append hreads', ?_⟩
    rw [← List.singleton_append (x := card), written_append, written_append, List.map_append,
      List.map_append, hpart, hrest]

end Card

/-! ### Documents -/

namespace Document

variable {cards : List Card}

theorem render_eq_joinLines_written (cards : List Card) :
    render cards = Text.joinLines ((Card.written cards).map Card.render) := by
  rw [render, Card.written, List.filter_map]
  rfl

/-- **Writing what was read settles.**  A document that was read is written, read and written again
as it is exactly if every card in it is settled. -/
theorem stable_iff {text : Text} {ids ids' : IdSupply} (h : (parse text ids).result = .ok cards) :
    (∃ again, (parse (render cards) ids').result = .ok again ∧ render again = render cards) ↔
      ∀ card ∈ cards, card.IsSettled := by
  have hread := isRead_of_parse h
  constructor
  · rintro ⟨again, hagain, hrender⟩
    have hread' := isRead_of_parse hagain
    obtain ⟨blocks, hlayout, hreads⟩ := parse_eq_ok_iff.1 hagain
    rw [lines_render] at hlayout
    obtain ⟨parts, rfl, hparts⟩ := Card.exists_rereads hlayout hreads
    -- as many cards are written again as were written, and in the same lines
    have hlines := congrArg Text.lines hrender
    rw [lines_render, lines_render, ← Card.flatMap_lines_written parts.flatten,
      ← Card.flatMap_lines_written cards] at hlines
    have hmap := Card.map_lines_eq_of_flatMap_eq
      (fun x hx => ⟨hread' x (Card.mem_written.1 hx).1, (Card.mem_written.1 hx).2⟩)
      (fun y hy => ⟨hread y (Card.mem_written.1 hy).1, (Card.mem_written.1 hy).2⟩) hlines
    intro card hc
    obtain ⟨part, -, hpart, hwritten⟩ :=
      exists_mem_of_forall₂ (Card.forall₂_written hparts hmap).flip hc
    exact hpart.isSettled (hread card hc) hwritten
  · intro hsettled
    obtain ⟨blocks, again, hlayout, hreads, hwritten⟩ :=
      Card.exists_readsAs_of_isSettled hsettled hread 1 ids'
    refine ⟨again, parse_eq_ok_iff.2 ⟨blocks, ?_, hreads⟩, ?_⟩
    · rw [lines_render]
      exact hlayout
    · rw [render_eq_joinLines_written, render_eq_joinLines_written, hwritten]

/-- A text whose first line of commands looks like the bootstrap script only when it is written. -/
def lookalikeText : Text :=
  "ADD [\"./a\", \"/x\"]\nWORKDIR /x\nadd ./find_and_replace.sh x\nRUN one\nRUN two".toList

/-- The recipe in this text. -/
def lookalike : Recipe where
  id := "id-1".toList
  name := "a".toList
  path := "x".toList
  commands := [⟨some .add, "./find_and_replace.sh x".toList, false⟩,
    ⟨some .run, "one".toList, false⟩, ⟨some .run, "two".toList, false⟩]
  hasBootstrap := false
  legacyAdd := false
  fromText := true
  source := some lookalikeText

theorem parse_lookalikeText :
    (parse (Block.wrap (.recipe .file) lookalikeText) .sequential).result =
      .ok [.recipe .file lookalike] := by decide +kernel

/-- What is written of it is read with the script and without its first command. -/
theorem not_stable_lookalike :
    (parse (Block.wrap (.recipe .file) lookalikeText) .sequential).result =
      .ok [.recipe .file lookalike] ∧
    ¬ ∃ again, (parse (render [.recipe .file lookalike]) .sequential).result = .ok again ∧
      render again = render [.recipe .file lookalike] := by
  refine ⟨parse_lookalikeText, fun h => ?_⟩
  have hsettled : lookalike.IsSettled .file :=
    (stable_iff parse_lookalikeText).1 h _ (List.mem_singleton_self _)
  rw [Recipe.IsSettled, if_neg (by decide)] at hsettled
  exact absurd (hsettled (by decide)) (by decide)

end Document

end BuildCards
