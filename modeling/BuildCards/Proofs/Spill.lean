import BuildCards.Proofs.Settled

/-!
# Values that spill over their lines

A path with line feeds is written on several lines, of which only the first names the working
directory.  The others are read as lines of commands.  **Main theorem**
(`Recipe.IsRead.isKept_iff_of_plain`): if none of them is a marker, the recipe is written again as
it is exactly if they say nothing, which is to say that each is blank or a keyword without a body.

The bootstrap script does not interfere.  A line that says nothing does not look like it
(`Command.opens_of_text_eq_nil`), and if the first line that was spilled does look like it, more is
written than there was.
-/

namespace BuildCards

/-! ### Lines that say nothing -/

namespace Command

variable {c : Command} {i : Instruction} {line rest : Text}

/-- A command without a body is read from blanks and perhaps a marker. -/
theorem notMem_of_isBlank_body {a : Char} (hb : Text.isBlank a = false)
    (hlegacy : a ∉ legacyCacheMarker) (hmarker : a ∉ cacheMarker)
    (h : Text.IsBlank (ofInstruction i rest).body) : a ∉ rest := by
  intro hm
  have htrim : a ∈ Text.trim rest := (Text.mem_trim hb).2 hm
  unfold ofInstruction at h
  split at h
  next u hu =>
    have hend : a ∈ Text.trimEnd rest := by
      rw [Text.trim_eq_trimStart_trimEnd] at htrim
      exact (List.dropWhile_suffix _).mem htrim
    have hnot : a ∉ u := fun hmem => absurd (Text.isBlank_trim.1 h a hmem) (by simp [hb])
    rw [beforeMarker?, Option.or_eq_some_iff] at hu
    rcases hu with hu | ⟨-, hu⟩
    · rw [Text.beforeEnd?_eq_some_iff.1 hu, List.mem_append] at hend
      exact hend.elim hnot hlegacy
    · rw [Text.beforeEnd?_eq_some_iff.1 hu, List.mem_append] at hend
      exact hend.elim hnot hmarker
  · exact absurd (h a htrim) (by simp [hb])

/-- A line with a command that says nothing has no dot: it is made of a keyword, blanks and perhaps
a marker. -/
theorem dot_notMem_of_text_eq_nil (h : parse line = .ok c) (hc : c.text = []) : '.' ∉ line := by
  have hdot : Text.isBlank '.' = false := by decide
  rw [← Text.mem_trim hdot]
  unfold parse at h
  split at h
  next hnil => simp [hnil]
  next a t htrim =>
    rw [htrim]
    split at h
    next i hi =>
      rw [Except.ok.injEq] at h
      have hbody : Text.IsBlank (ofInstruction i
          (Text.trimStart ((a :: t).dropWhile (!Text.isBlank ·)))).body := by
        rw [← h, text_eq_nil_iff] at hc
        refine hc.resolve_left ?_
        unfold ofInstruction
        split <;> simp
      have hrest := notMem_of_isBlank_body hdot (by decide) (by decide) hbody
      have hword : '.' ∉ (a :: t).takeWhile (!Text.isBlank ·) := by
        intro hm
        have hupper := List.mem_map_of_mem (f := Char.toUpper) hm
        rw [Instruction.ofKeyword?_eq_some_iff.1 hi] at hupper
        revert hupper
        cases i <;> decide
      intro hm
      rw [← List.takeWhile_append_dropWhile (p := (!Text.isBlank ·)) (l := a :: t),
        List.mem_append] at hm
      rcases hm with hm | hm
      · exact hword hm
      · exact hrest ((Text.trimEnd_isPrefix _).mem ((Text.mem_trim hdot).2 hm))
    · simp at h

/-- So no such line looks like the bootstrap script. -/
theorem opens_of_text_eq_nil {lines : List Text} (h : parse line = .ok c) (hc : c.text = []) :
    Bootstrap.opens (line :: lines) = false := by
  refine Bool.eq_false_iff.2 fun hopens => dot_notMem_of_text_eq_nil h hc ?_
  have hmem : '.' ∈ "ADD ./".toList ++ Bootstrap.scriptName := by decide
  exact (Text.contains_iff.1 hopens).mem hmem

end Command

namespace Recipe

variable {kind : RecipeKind} {r : Recipe} {ls : List Text}

/-- The line holds nothing that would be written. -/
def SaysNothing (line : Text) : Prop :=
  ∃ c, Command.parse (Bootstrap.migrate line) = .ok c ∧ c.text = []

theorem forall_saysNothing_iff : (∀ l ∈ ls, SaysNothing l) ↔
    ∃ commands, List.Forall₂ (fun line c => Command.parse line = .ok c)
      ((ls.map Bootstrap.migrate).filter fun line => ¬ Text.IsBlank line) commands ∧
        Command.texts commands = [] := by
  constructor
  · intro hsilent
    obtain ⟨commands, hc⟩ : ∃ commands, List.Forall₂
        (fun line c => Command.parse line = .ok c ∧ c.text = [])
        ((ls.map Bootstrap.migrate).filter fun line => ¬ Text.IsBlank line) commands := by
      refine exists_forall₂ fun line hline => ?_
      obtain ⟨l, hl, rfl⟩ := List.mem_map.1 (List.mem_filter.1 hline).1
      exact hsilent l hl
    refine ⟨commands, hc.imp fun _ _ hread => hread.1, ?_⟩
    rw [Command.texts, List.filter_eq_nil_iff]
    intro text hmem
    obtain ⟨c, hcmem, rfl⟩ := List.mem_map.1 hmem
    obtain ⟨_, -, hread⟩ := exists_mem_of_forall₂ hc hcmem
    simp [hread.2]
  · rintro ⟨commands, hc, hnil⟩ l hl
    by_cases hblank : Text.IsBlank (Bootstrap.migrate l)
    · exact ⟨Command.blank, Command.parse_of_isBlank hblank, rfl⟩
    · have hmem : Bootstrap.migrate l ∈
          (ls.map Bootstrap.migrate).filter fun line => ¬ Text.IsBlank line :=
        List.mem_filter.2 ⟨List.mem_map_of_mem hl, by simpa using hblank⟩
      obtain ⟨c, hcmem, hread⟩ := exists_mem_of_forall₂ hc.flip hmem
      refine ⟨c, hread, ?_⟩
      by_contra htext
      have hwritten := Command.mem_texts.2 ⟨htext, c, hcmem, rfl⟩
      rw [hnil] at hwritten
      simp at hwritten

theorem opens_of_saysNothing (hls : ls ≠ []) (h : ∀ l ∈ ls, SaysNothing l) (ms : List Text) :
    Bootstrap.opens ((ls ++ ms).map Bootstrap.migrate) = false := by
  obtain ⟨l, rest, rfl⟩ := List.exists_cons_of_ne_nil hls
  obtain ⟨c, hparse, htext⟩ := h l List.mem_cons_self
  exact Command.opens_of_text_eq_nil hparse htext

/-! ### Lines above those of the commands -/

/-- The commands that lines hold above those of a recipe, and what is written of them. -/
theorem texts_of_forall₂_append {us vs : List Text} {commands : List Command}
    (hvs : ∀ l ∈ vs, l ∈ r.renderedLines kind)
    (h : List.Forall₂ (fun line c => Command.parse line = .ok c) (us ++ vs) commands) :
    ∃ first, List.Forall₂ (fun line c => Command.parse line = .ok c) us first ∧
      Command.texts commands = Command.texts first ++ vs := by
  have hfirst := (List.forall₂_take_append _ _ _ h.flip).flip
  have hrest := (List.forall₂_drop_append _ _ _ h.flip).flip
  refine ⟨_, hfirst, ?_⟩
  rw [← texts_of_forall₂ hvs hrest, ← Command.texts_append, List.take_append_drop]

theorem filter_not_isBlank {vs : List Text} (hvs : ∀ l ∈ vs, l ∈ r.renderedLines kind) :
    (vs.filter fun line => ¬ Text.IsBlank line) = vs :=
  List.filter_eq_self.2 fun l hl => by simpa using not_isBlank_of_mem_renderedLines (hvs l hl)

/-- If the first of the lines above looks like the bootstrap script, more is written than there
was. -/
theorem not_isRestoredBy_of_opens (h : r.IsRead) (hkind : kind ≠ .sshKey)
    (hne : r.renderedLines kind ≠ []) (hls : ls ≠ [])
    (hopens : Bootstrap.opens ((ls ++ r.renderedLines kind).map Bootstrap.migrate) = true) :
    ¬ r.IsRestoredBy kind (ls ++ r.renderedLines kind) := by
  rintro ⟨commands, hc, hsame⟩
  rw [renderedLines_of_holdsCommands hkind hc, hopens, if_pos rfl] at hsame
  rw [HoldsCommands, ownLines, hopens, if_pos rfl] at hc
  -- of the lines of the recipe, only the first can be taken for one of the script
  obtain ⟨us, hus⟩ : ∃ us, ((ls ++ r.renderedLines kind).map Bootstrap.migrate).drop 2 =
      us ++ (r.renderedLines kind).drop 1 := by
    rw [List.map_append, h.map_migrate_renderedLines hkind]
    obtain ⟨l, rest, rfl⟩ := List.exists_cons_of_ne_nil hls
    cases rest with
    | nil => exact ⟨[], rfl⟩
    | cons _ rest =>
      refine ⟨rest.map Bootstrap.migrate ++ (r.renderedLines kind).take 1, ?_⟩
      rw [List.append_assoc, List.take_append_drop]
      rfl
  have hvs : ∀ l ∈ (r.renderedLines kind).drop 1, l ∈ r.renderedLines kind :=
    fun l hl => List.mem_of_mem_drop hl
  rw [hus, List.filter_append, filter_not_isBlank hvs] at hc
  obtain ⟨first, -, htexts⟩ := texts_of_forall₂_append hvs hc
  have hlen := congrArg List.length hsame
  have hpos := List.length_pos_iff.2 hne
  have hboot : (Command.texts Bootstrap.commands).length = 2 := by decide
  rw [htexts, List.length_append, List.length_append, List.length_drop, hboot] at hlen
  omega

/-- Lines above those of a recipe restore it exactly if they say nothing. -/
theorem IsRead.isRestoredBy_append_iff (h : r.IsRead) (hkind : kind ≠ .sshKey)
    (hne : r.renderedLines kind ≠ []) (hls : ls ≠ []) :
    r.IsRestoredBy kind (ls ++ r.renderedLines kind) ↔ ∀ l ∈ ls, SaysNothing l := by
  have hmap : (ls ++ r.renderedLines kind).map Bootstrap.migrate =
      ls.map Bootstrap.migrate ++ r.renderedLines kind := by
    rw [List.map_append, h.map_migrate_renderedLines hkind]
  have hown (hopens :
      Bootstrap.opens ((ls ++ r.renderedLines kind).map Bootstrap.migrate) = false) :
      ownLines ((ls ++ r.renderedLines kind).map Bootstrap.migrate) =
        ((ls.map Bootstrap.migrate).filter fun line => ¬ Text.IsBlank line) ++
          r.renderedLines kind := by
    rw [ownLines, hopens, hmap, if_neg (by decide), List.filter_append,
      filter_not_isBlank fun l hl => hl]
  constructor
  · intro hrestored
    cases hopens : Bootstrap.opens ((ls ++ r.renderedLines kind).map Bootstrap.migrate) with
    | true => exact absurd hrestored (not_isRestoredBy_of_opens h hkind hne hls hopens)
    | false =>
      obtain ⟨commands, hc, hsame⟩ := hrestored
      rw [renderedLines_of_holdsCommands hkind hc, hopens] at hsame
      rw [HoldsCommands, hown hopens] at hc
      obtain ⟨first, hfirst, htexts⟩ := texts_of_forall₂_append (fun l hl => hl) hc
      exact forall_saysNothing_iff.2 ⟨first, hfirst, by simpa [htexts] using hsame⟩
  · intro hsilent
    have hopens := opens_of_saysNothing hls hsilent
    obtain ⟨first, hfirst, hnil⟩ := forall_saysNothing_iff.1 hsilent
    obtain ⟨own, hreads⟩ := exists_forall₂ fun line (hline : line ∈ r.renderedLines kind) =>
      (exists_isNormal_of_mem_renderedLines hline).imp fun _ hc => hc.1
    have hc : HoldsCommands (ls ++ r.renderedLines kind) (first ++ own) := by
      rw [HoldsCommands, hown (hopens _)]
      exact List.rel_append hfirst hreads
    refine ⟨first ++ own, hc, ?_⟩
    rw [renderedLines_of_holdsCommands hkind hc, hopens, Command.texts_append, hnil,
      texts_of_forall₂ (fun l hl => hl) hreads]
    rfl

/-! ### Paths -/

/-- The lines that the path spills over, after the one that names the working directory. -/
def spilledLines (path : Text) : List Text := (pathLines path).drop 1

theorem spilledLines_ne_nil {path : Text} (h : '\n' ∈ path) : spilledLines path ≠ [] := by
  intro hnil
  have hlen : ([directoryLine path].flatMap (·.splitOn '\n')).length = 1 := by
    obtain ⟨l, ls, hl⟩ := exists_pathLines_cons path
    rw [spilledLines, hl, List.drop_one, List.tail_cons] at hnil
    have hlen := congrArg List.length hl
    rw [hnil, pathLines, List.length_map] at hlen
    simpa using hlen
  have hline := Text.notMem_of_length_flatMap_splitOn hlen _ (List.mem_singleton_self _)
  exact newline_notMem_directoryLine_iff.1 hline h

/-- **Paths that spill over their lines.**  If none of these lines is a marker, the recipe is kept
exactly if they say nothing. -/
theorem IsRead.isKept_iff_of_plain (h : r.IsRead) (hkind : kind ≠ .sshKey)
    (hne : r.renderedLines kind ≠ []) (hv : '\n' ∈ r.renderedPath kind)
    (hplain : ∀ l ∈ spilledLines (r.renderedPath kind), Block.Plain l) :
    r.IsKept kind ↔ ∀ l ∈ spilledLines (r.renderedPath kind), SaysNothing l := by
  obtain ⟨first, rest, hlines⟩ := exists_pathLines_cons (r.renderedPath kind)
  have hspilled : spilledLines (r.renderedPath kind) = rest := by
    rw [spilledLines, hlines]
    rfl
  have hlower : r.lowerLines kind = ('W' :: first) :: (rest ++ r.renderedLines kind) := by
    rw [h.lowerLines_eq hkind hne, hlines]
    rfl
  have hall : ∀ l ∈ r.lowerLines kind, Block.Plain l := by
    rw [hlower, List.forall_mem_cons, List.forall_mem_append]
    exact ⟨Block.plain_of_cons first (by decide) (by decide), hspilled ▸ hplain,
      fun l hl => plain_of_mem_renderedLines hl⟩
  have hrest : rest ≠ [] := hspilled ▸ spilledLines_ne_nil hv
  rw [isKept_iff_isRestoredBy hall, hlower, hspilled]
  exact h.isRestoredBy_append_iff hkind hne hrest

end Recipe

end BuildCards
