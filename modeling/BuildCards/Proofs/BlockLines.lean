import BuildCards.Proofs.RoundTrip

/-!
# The lines of blocks that follow each other

A document is written as blocks, one after the other, so what a block is has to be seen from its
lines without knowing where they end.

* `Recipe.lowerLines`: the lines of a recipe below its header, with those that its path and the
  command of an SSH key spill over.
* `Recipe.IsRead.renderedLines_eq_of_lowerLines`: these lines and the end marker behind them tell
  the lines of the commands.
* `Card.IsRead.lines_eq_of_append`: hence the lines of blocks are prefix free, and
  `Card.map_lines_eq_of_flatMap_eq`: the lines of a document tell the lines of each block in it.
-/

namespace BuildCards

namespace Recipe

variable (kind : RecipeKind) (r : Recipe)

/-! ### The lines below the header -/

/-- The lines of the block of a recipe between the header and the end marker. -/
def lowerLines : List Text :=
  (((r.contentLines kind).drop 1).flatMap (·.splitOn '\n')).map Text.dropReturn

/-- The lines of the path, the first of which names the working directory. -/
def pathLines (path : Text) : List Text := ((directoryLine path).splitOn '\n').map Text.dropReturn

/-- The lines of the command of an SSH key. -/
def keyLines (name : Text) : List Text :=
  (((sshKeyCommand name).text).splitOn '\n').map Text.dropReturn

theorem lines_render_eq : Text.lines (r.render kind) = Block.startLine kind ::
    AddHeader.text r.renderedName (r.renderedPath kind) ::
      (r.lowerLines kind ++ [Block.endMarker]) := by
  have hcons : r.contentLines kind = AddHeader.text r.renderedName (r.renderedPath kind) ::
      (r.contentLines kind).drop 1 := rfl
  have hheader : (AddHeader.text r.renderedName (r.renderedPath kind)).splitOn '\n' =
      [AddHeader.text r.renderedName (r.renderedPath kind)] :=
    List.splitOn_eq_singleton (AddHeader.newline_notMem_text _ _)
  have hdrop : Text.dropReturn (AddHeader.text r.renderedName (r.renderedPath kind)) =
      AddHeader.text r.renderedName (r.renderedPath kind) :=
    Text.dropReturn_eq_self (Text.trimEnd_of_trim (AddHeader.trim_text _ _))
  rw [lines_render, hcons, List.flatMap_cons, hheader, List.map_append, List.map_singleton, hdrop]
  rfl

variable {kind r}

theorem lowerLines_of_nil (h : r.renderedLines kind = []) : r.lowerLines kind = [] := by
  simp [lowerLines, contentLines, h]

theorem lowerLines_of_ne_nil (h : r.renderedLines kind ≠ []) : r.lowerLines kind =
    pathLines (r.renderedPath kind) ++
      ((r.renderedLines kind).flatMap (·.splitOn '\n')).map Text.dropReturn := by
  simp [lowerLines, contentLines, h, pathLines]

theorem map_dropReturn_renderedLines :
    (r.renderedLines kind).map Text.dropReturn = r.renderedLines kind :=
  Text.map_dropReturn_eq_self fun _ hl => Text.trimEnd_of_trim (trim_of_mem_renderedLines hl)

theorem exists_pathLines_cons (path : Text) : ∃ l ls, pathLines path = ('W' :: l) :: ls := by
  have hcons : directoryLine path = 'W' :: ("ORKDIR /".toList ++ path) := rfl
  obtain ⟨p, ps, hp⟩ := Text.exists_splitOn_cons (c := 'W') (by decide) ("ORKDIR /".toList ++ path)
  obtain ⟨l, hl⟩ := Text.exists_dropReturn_cons (c := 'W') (by decide) p
  exact ⟨l, ps.map Text.dropReturn, by rw [pathLines, hcons, hp, List.map_cons, hl]⟩

theorem exists_keyLines_cons (name : Text) : ∃ l ls, keyLines name = ('R' :: l) :: ls := by
  obtain ⟨t, ht⟩ : ∃ t, (sshKeyCommand name).text = 'R' :: t := by
    obtain ⟨_, -, hbody⟩ := Command.exists_instruction (text_sshKeyCommand_ne_nil name)
    exact ⟨_, Command.text_of_instruction (i := .run) rfl hbody⟩
  obtain ⟨p, ps, hp⟩ := Text.exists_splitOn_cons (c := 'R') (by decide) t
  obtain ⟨l, hl⟩ := Text.exists_dropReturn_cons (c := 'R') (by decide) p
  exact ⟨l, ps.map Text.dropReturn, by rw [keyLines, ht, hp, List.map_cons, hl]⟩

/-- The lines of a recipe that was read and is no SSH key are those of its commands, below those of
the path. -/
theorem IsRead.lowerLines_eq (h : r.IsRead) (hkind : kind ≠ .sshKey)
    (hne : r.renderedLines kind ≠ []) :
    r.lowerLines kind = pathLines (r.renderedPath kind) ++ r.renderedLines kind := by
  have hn : ∀ l ∈ r.renderedLines kind, '\n' ∉ l := fun l hl =>
    h.newline_notMem_renderedLines hkind hl
  rw [lowerLines_of_ne_nil hne, Text.flatMap_splitOn_of_notMem hn, map_dropReturn_renderedLines]

theorem renderedLines_sshKey : r.renderedLines (.recipe .sshKey) =
    (if r.hasBootstrap then Command.texts Bootstrap.commands else []) ++
      [(sshKeyCommand r.name).text] := by
  rw [renderedLines_eq, texts_ownCommands_sshKey]

/-- The lines of an SSH key are those of its command, below the bootstrap script and the path. -/
theorem lowerLines_sshKey : r.lowerLines .sshKey = pathLines Kind.sshKeyPath ++
    ((if r.hasBootstrap then Command.texts Bootstrap.commands else []) ++ keyLines r.name) := by
  have hne : r.renderedLines (.recipe .sshKey) ≠ [] := by simp [renderedLines_sshKey]
  have hboot : (Command.texts Bootstrap.commands).flatMap (·.splitOn '\n') =
      Command.texts Bootstrap.commands :=
    Text.flatMap_splitOn_of_notMem fun l hl => newline_notMem_of_mem_texts_bootstrap hl
  have hdrop : (Command.texts Bootstrap.commands).map Text.dropReturn =
      Command.texts Bootstrap.commands := by decide
  rw [lowerLines_of_ne_nil hne, renderedPath_sshKey, renderedLines_sshKey]
  cases r.hasBootstrap with
  | false => simp [keyLines]
  | true => simp [keyLines, hboot, hdrop]

/-- An SSH key is set up by what is written of its name. -/
theorem sshKeyCommand_trim (name : Text) : sshKeyCommand (Text.trim name) = sshKeyCommand name := by
  simp only [sshKeyCommand, Text.trim_trim]

/-! ### What is written of the same values -/

/-- What is written of a name is written of it again. -/
theorem renderedName_congr {r' : Recipe} (h : r'.name = r.renderedName) :
    r'.renderedName = r.renderedName := by
  rw [renderedName, h]
  exact Text.trim_trim

/-- What is written of a name and a path is written of them again. -/
theorem renderedPath_congr {r' : Recipe} (hname : r'.name = r.renderedName)
    (hpath : r'.path = if kind = .sshKey then Kind.sshKeyPath else r.renderedPath kind) :
    r'.renderedPath kind = r.renderedPath kind := by
  by_cases hkind : kind = .sshKey
  · rw [hkind, renderedPath_sshKey, renderedPath_sshKey]
  · rw [if_neg hkind] at hpath
    have hkind' : (kind : Kind) ≠ .recipe .sshKey := fun h => hkind (by simpa using h)
    have hname' := renderedName_congr hname
    by_cases hblank : Text.IsBlank (r.renderedPath kind)
    · -- the path comes from nothing or from a name of blanks, and does so again
      have hnil : r.renderedPath kind = [] := by
        rw [← Text.trim_eq_nil_iff] at hblank
        rw [← hblank, renderedPath, Text.trim_trim]
      have hdefault : Text.IsBlank (Kind.defaultPath kind r.renderedName r.path) :=
        Text.trim_eq_nil_iff.1 hnil
      rw [hnil, renderedPath, hname', hpath, hnil, Text.trim_eq_nil_iff]
      unfold Kind.defaultPath at hdefault ⊢
      rw [if_neg hkind'] at hdefault ⊢
      rw [if_neg (by simp [Text.IsBlank])]
      split at hdefault
      next hsaid => exact absurd hdefault hsaid
      next => exact hdefault
    · have hkept : Kind.defaultPath kind r'.renderedName r'.path = r.renderedPath kind := by
        rw [Kind.defaultPath, if_neg hkind', hpath, if_pos hblank]
      rw [renderedPath, hkept]
      exact Text.trim_trim

theorem renderedLines_congr {r' : Recipe} (hcommands : r'.commands = r.commands)
    (hboot : r'.hasBootstrap = r.hasBootstrap) (hname : r'.renderedName = r.renderedName) :
    r'.renderedLines kind = r.renderedLines kind := by
  have hkey : sshKeyCommand r'.name = sshKeyCommand r.name := by
    rw [← sshKeyCommand_trim r'.name, ← sshKeyCommand_trim r.name]
    exact congrArg sshKeyCommand hname
  rw [renderedLines_eq, renderedLines_eq, ownCommands, ownCommands, hcommands, hboot, hkey]

theorem contentLines_congr {r' : Recipe} (hname : r'.renderedName = r.renderedName)
    (hpath : r'.renderedPath kind = r.renderedPath kind)
    (hlines : r'.renderedLines kind = r.renderedLines kind) :
    r'.contentLines kind = r.contentLines kind := by
  rw [contentLines, contentLines, hname, hpath, hlines]

theorem render_congr {r' : Recipe} (hname : r'.renderedName = r.renderedName)
    (hpath : r'.renderedPath kind = r.renderedPath kind)
    (hlines : r'.renderedLines kind = r.renderedLines kind) : r'.render kind = r.render kind := by
  rw [render, render, content_eq, content_eq, contentLines_congr hname hpath hlines]

/-! ### What the lines of a block tell -/

/-- **The lines of a block tell the lines of its commands.**  Of two recipes with one name and one
path, whatever follows their blocks. -/
theorem IsRead.renderedLines_eq_of_lowerLines {r' : Recipe} {us vs : List Text} (h : r.IsRead)
    (h' : r'.IsRead) (hname : r.renderedName = r'.renderedName)
    (hpath : r.renderedPath kind = r'.renderedPath kind)
    (heq : r.lowerLines kind ++ Block.endMarker :: us =
      r'.lowerLines kind ++ Block.endMarker :: vs) :
    r.renderedLines kind = r'.renderedLines kind := by
  by_cases hkind : kind = .sshKey
  · subst hkind
    have hkey : (sshKeyCommand r.name).text = (sshKeyCommand r'.name).text := by
      rw [← sshKeyCommand_trim r.name, ← sshKeyCommand_trim r'.name]
      exact congrArg (fun n => (sshKeyCommand n).text) hname
    have hlines : keyLines r.name = keyLines r'.name := by rw [keyLines, hkey, keyLines]
    rw [lowerLines_sshKey, lowerLines_sshKey, hlines] at heq
    simp only [List.append_assoc, List.append_cancel_left_eq] at heq
    -- the first line tells whether the script comes first
    obtain ⟨l, ls, hcons⟩ := exists_keyLines_cons r'.name
    have hboot : Command.texts Bootstrap.commands =
        ('A' :: "DD ./find_and_replace.sh find_and_replace.sh".toList) ::
          ["RUN bash find_and_replace.sh".toList] := by decide
    rw [renderedLines_sshKey, renderedLines_sshKey, hkey]
    cases hb : r.hasBootstrap <;> cases hb' : r'.hasBootstrap <;>
      simp only [hb, hb', hcons, hboot, Bool.false_eq_true, ↓reduceIte, List.nil_append,
        List.cons_append, List.cons.injEq] at heq ⊢
    · exact absurd heq.1.1 (by decide)
    · exact absurd heq.1.1 (by decide)
  · have hmark (path : Text) (us ws : List Text) :
        Block.endMarker :: us ≠ pathLines path ++ ws := by
      obtain ⟨l, ls, hl⟩ := exists_pathLines_cons path
      rw [hl, List.cons_append]
      intro hcons
      have hhead : '#' :: "End".toList = 'W' :: l := (List.cons.inj hcons).1
      exact absurd (List.cons.inj hhead).1 (by decide)
    by_cases hnil : r.renderedLines kind = []
    · by_cases hnil' : r'.renderedLines kind = []
      · rw [hnil, hnil']
      · rw [lowerLines_of_nil hnil, h'.lowerLines_eq hkind hnil', List.append_assoc] at heq
        exact absurd heq (hmark _ _ _)
    · by_cases hnil' : r'.renderedLines kind = []
      · rw [lowerLines_of_nil hnil', h.lowerLines_eq hkind hnil, List.append_assoc] at heq
        exact absurd heq.symm (hmark _ _ _)
      · rw [h.lowerLines_eq hkind hnil, h'.lowerLines_eq hkind hnil', hpath, List.append_assoc,
          List.append_assoc, List.append_cancel_left_eq] at heq
        exact (Block.append_stop_inj (fun l hl => plain_of_mem_renderedLines hl)
          (fun l hl => plain_of_mem_renderedLines hl) Block.stops_endMarker Block.stops_endMarker
          heq).1

end Recipe

/-! ### Blocks that follow each other -/

namespace Card

variable {x y : Card} {us vs : List Text}

/-- **The lines of blocks are prefix free.**  A block is known by its lines from what follows it. -/
theorem IsRead.lines_eq_of_append (hx : x.IsRead) (hy : y.IsRead) (hxne : x.render ≠ [])
    (hyne : y.render ≠ []) (h : Text.lines x.render ++ us = Text.lines y.render ++ vs) :
    Text.lines x.render = Text.lines y.render := by
  have hkind : x.kind = y.kind := by
    obtain ⟨u, hu⟩ := x.render_eq_nil_or_wrap.resolve_left hxne
    obtain ⟨v, hv⟩ := y.render_eq_nil_or_wrap.resolve_left hyne
    rw [hu, hv, Block.lines_wrap, Block.lines_wrap, List.cons_append, List.cons_append,
      List.cons.injEq] at h
    exact Kind.label_injective (List.cons.inj (List.append_cancel_left h.1)).2
  cases x with
  | recipe kind r =>
    cases y with
    | recipe kind' r' =>
      obtain rfl : kind = kind' := by simpa [Card.kind] using hkind
      change Text.lines (r.render kind) ++ us = Text.lines (r'.render kind) ++ vs at h
      rw [r.lines_render_eq kind, r'.lines_render_eq kind] at h
      simp only [List.cons_append, List.cons.injEq, AddHeader.text_inj, List.append_assoc] at h
      obtain ⟨-, ⟨hname, hpath⟩, hlower⟩ := h
      have hlines := Recipe.IsRead.renderedLines_eq_of_lowerLines hx hy hname hpath hlower
      change Text.lines (r.render kind) = Text.lines (r'.render kind)
      rw [Recipe.lines_render, Recipe.lines_render, Recipe.contentLines_congr hname hpath hlines]
    | packages p => simp [Card.kind] at hkind
  | packages p =>
    cases y with
    | recipe kind' r' => simp [Card.kind] at hkind
    | packages q =>
      have hne {p : Packages} (hp : (packages p).render ≠ []) :
          Packages.normalize p.packageList ≠ [] := fun hnil =>
        hp (by simp [render, Packages.render, hnil])
      change Text.lines p.render ++ us = Text.lines q.render ++ vs at h
      change Text.lines p.render = Text.lines q.render
      rw [p.lines_render (hne hxne), q.lines_render (hne hyne)] at h ⊢
      simp only [List.cons_append, List.cons.injEq] at h
      rw [h.2.1]

theorem render_recipe_ne_nil (kind : RecipeKind) (r : Recipe) : (recipe kind r).render ≠ [] :=
  Block.wrap_ne_nil _ _

/-- The cards that have a block. -/
def written (cards : List Card) : List Card := cards.filter (!·.render.isEmpty)

variable {cards : List Card}

theorem mem_written {card : Card} : card ∈ written cards ↔ card ∈ cards ∧ card.render ≠ [] := by
  simp [written]

theorem written_append (cards cards' : List Card) :
    written (cards ++ cards') = written cards ++ written cards' :=
  List.filter_append ..

theorem written_cons {card : Card} (h : card.render ≠ []) (cards : List Card) :
    written (card :: cards) = card :: written cards := by
  simp [written, h]

theorem flatMap_lines_written (cards : List Card) :
    ((written cards).flatMap fun card => Text.lines card.render) =
      cards.flatMap fun card => Text.lines card.render := by
  induction cards with
  | nil => rfl
  | cons card cards ih =>
    rw [List.flatMap_cons, ← ih]
    by_cases hcard : card.render = []
    · simp [written, hcard, Text.lines_nil]
    · simp [written, hcard]

/-- So the lines of a document tell the lines of each block. -/
theorem map_lines_eq_of_flatMap_eq {xs ys : List Card} (hx : ∀ x ∈ xs, x.IsRead ∧ x.render ≠ [])
    (hy : ∀ y ∈ ys, y.IsRead ∧ y.render ≠ [])
    (h : (xs.flatMap fun card => Text.lines card.render) =
      ys.flatMap fun card => Text.lines card.render) :
    (xs.map fun card => Text.lines card.render) = ys.map fun card => Text.lines card.render := by
  have hne {card : Card} (hc : card.render ≠ []) : Text.lines card.render ≠ [] := by
    obtain ⟨content, hcontent⟩ := card.render_eq_nil_or_wrap.resolve_left hc
    rw [hcontent, Block.lines_wrap]
    exact List.cons_ne_nil _ _
  induction xs generalizing ys with
  | nil =>
    cases ys with
    | nil => rfl
    | cons y ys =>
      rw [List.flatMap_nil, List.flatMap_cons] at h
      exact absurd (List.append_eq_nil_iff.1 h.symm).1 (hne (hy y List.mem_cons_self).2)
  | cons x xs ih =>
    cases ys with
    | nil =>
      rw [List.flatMap_nil, List.flatMap_cons] at h
      exact absurd (List.append_eq_nil_iff.1 h).1 (hne (hx x List.mem_cons_self).2)
    | cons y ys =>
      obtain ⟨hxread, hxne⟩ := hx x List.mem_cons_self
      obtain ⟨hyread, hyne⟩ := hy y List.mem_cons_self
      rw [List.flatMap_cons, List.flatMap_cons] at h
      have hfirst := hxread.lines_eq_of_append hyread hxne hyne h
      rw [hfirst, List.append_cancel_left_eq] at h
      have hrest := ih (fun x' hx' => hx x' (List.mem_cons_of_mem _ hx'))
        (fun y' hy' => hy y' (List.mem_cons_of_mem _ hy')) h
      rw [List.map_cons, List.map_cons, hfirst, hrest]

end Card

end BuildCards
