import BuildCards.Proofs.BlockLines

/-!
# Settled cards

Writing a document that was read normalizes it.  A card is *settled* (`Card.IsSettled`) if writing
it, reading that and writing it again changes nothing.  Lists of packages always are.  With recipes
two things can go wrong.

* The value that is written without quotes may spill over several lines, and these are read as lines
  of commands, or as markers.  What has to hold of them is said in `Recipe.IsKept`.
* Otherwise the first line may look like the bootstrap script, though the recipe does not begin with
  the script: the two lines that are taken for the script are then written anew.  That this does not
  happen is said in `Recipe.OpensHonestly`.

`Recipe.IsRead.isSettled_iff` reduces the second to the first.
-/

namespace BuildCards

/-! ### Lines that say nothing -/

/-- The text of the block holds a card that is not written. -/
def Block.IsSilent (b : Block) : Prop :=
  ∃ id card, Card.parse b.kind id b.source = .ok card ∧ card.render = []

/-- The lines are blank lines and blocks of cards that are not written. -/
def SilentLines (ls : List Text) : Prop :=
  ∃ blocks, Layout 1 ls blocks ∧ ∀ b ∈ blocks, b.IsSilent

/-- The number of the first line does not matter. -/
theorem exists_layout_isSilent {ls : List Text} {n : Nat}
    (h : ∃ blocks, Layout n ls blocks ∧ ∀ b ∈ blocks, b.IsSilent) (m : Nat) :
    ∃ blocks, Layout m ls blocks ∧ ∀ b ∈ blocks, b.IsSilent := by
  obtain ⟨blocks, hlayout, hsilent⟩ := h
  obtain ⟨blocks', hlayout', hsame⟩ := hlayout.renumber m
  refine ⟨blocks', hlayout', fun b' hb' => ?_⟩
  obtain ⟨b, hb, hkind, hbody⟩ := exists_mem_of_forall₂ hsame hb'
  obtain ⟨id, card, hcard, hrender⟩ := hsilent b hb
  refine ⟨id, card, ?_, hrender⟩
  rw [Block.source, hkind, hbody]
  exact hcard

/-! ### Settled recipes -/

namespace Recipe

variable (kind : RecipeKind) (r : Recipe)

/-- The lines, which come after the first two, hold commands with which the recipe is written as it
is. -/
def IsRestoredBy (ls : List Text) : Prop :=
  ∃ commands, HoldsCommands ls commands ∧
    renderedLines { r with
      commands := commands
      hasBootstrap := Bootstrap.opens (ls.map Bootstrap.migrate) } kind = r.renderedLines kind

/-- **What writing does not change.**  The lines of the recipe below its header, with the end
marker, are cut at the first line that can be taken for an end marker.  Those before it restore the
recipe, and those after it hold nothing that would be written. -/
def IsKept : Prop :=
  ∃ body stop rest, r.lowerLines kind ++ [Block.endMarker] = body ++ stop :: rest ∧
    (∀ l ∈ body, Block.Plain l) ∧ Block.Stops stop ∧ r.IsRestoredBy kind (body.drop 1) ∧
    SilentLines rest

/-- A first line that looks like the bootstrap script, as it is written, is the script. -/
def OpensHonestly : Prop :=
  Bootstrap.opens ((r.renderedLines kind).map Bootstrap.migrate) = true →
    (r.renderedLines kind).take 2 = Command.texts Bootstrap.commands

/-- The recipe is written again as it is.  If the value without quotes keeps to its line, this is to
say that a first line that looks like the bootstrap script is the script. -/
def IsSettled : Prop :=
  if '\n' ∈ r.looseValue kind then r.IsKept kind else r.OpensHonestly kind

variable {kind r}

/-! ### Values that keep to their lines -/

/-- The lines of a recipe that was read were migrated before. -/
theorem IsRead.holdsFormerName_of_mem_renderedLines (h : r.IsRead) (hkind : kind ≠ .sshKey)
    {l : Text} (hl : l ∈ r.renderedLines kind) : Bootstrap.holdsFormerName l = false := by
  have hboot : ∀ l ∈ Command.texts Bootstrap.commands, Bootstrap.holdsFormerName l = false := by
    decide
  rcases mem_texts_of_mem_renderedLines hl with hl | hl
  · exact hboot l hl
  · rw [ownCommands, if_neg hkind] at hl
    obtain ⟨-, c, hc, rfl⟩ := Command.mem_texts.1 hl
    obtain ⟨d, hd, rfl⟩ := List.mem_map.1 hc
    obtain ⟨line, -, hparse⟩ := h d hd
    rw [(Command.isNormal_of_parse hparse).text_clone]
    exact Command.holdsFormerName_text_of_parse hparse

theorem IsRead.map_migrate_renderedLines (h : r.IsRead) (hkind : kind ≠ .sshKey) :
    (r.renderedLines kind).map Bootstrap.migrate = r.renderedLines kind :=
  Bootstrap.map_migrate_eq_self fun _ hl => h.holdsFormerName_of_mem_renderedLines hkind hl

/-- The lines of a recipe, read or not, are those of normal commands. -/
theorem exists_isNormal_of_mem_renderedLines {l : Text} (hl : l ∈ r.renderedLines kind) :
    ∃ c : Command, Command.parse l = .ok c ∧ c.IsNormal ∧ c.text = l := by
  rcases mem_texts_of_mem_renderedLines hl with hl | hl
  · obtain ⟨hne, c, hc, rfl⟩ := Command.mem_texts.1 hl
    have hnormal := Bootstrap.isNormal_of_mem_commands hc
    exact ⟨c, hnormal.parse_text hne, hnormal, rfl⟩
  · obtain ⟨hne, c, hc, rfl⟩ := Command.mem_texts.1 hl
    have hnormal := isNormal_of_mem_ownCommands hc
    exact ⟨c, hnormal.parse_text hne, hnormal, rfl⟩

/-- Lines begin with keywords, which migration leaves alone, so they are read again. -/
theorem exists_holdsCommands : ∃ commands, HoldsCommands (r.renderedLines kind) commands := by
  refine exists_forall₂ fun l hl => ?_
  obtain ⟨l', hl', rfl⟩ := List.mem_map.1 (mem_of_mem_ownLines hl)
  obtain ⟨hne, c, -, rfl⟩ := r.mem_renderedLines.1 hl'
  obtain ⟨i, hi, hbody⟩ := Command.exists_instruction hne
  have hkeyword : Bootstrap.migrate i.keyword = i.keyword := by cases i <;> decide
  rw [Command.text_of_instruction hi hbody, Bootstrap.migrate_append_cons (by decide), hkeyword]
  exact ⟨_, Command.parse_keyword i _⟩

/-- Commands that are read from lines of a recipe are written as these lines. -/
theorem texts_of_forall₂ {ls : List Text} {commands : List Command}
    (hls : ∀ l ∈ ls, l ∈ r.renderedLines kind)
    (h : List.Forall₂ (fun line c => Command.parse line = .ok c) ls commands) :
    Command.texts commands = ls := by
  induction h with
  | nil => rfl
  | @cons l c ls commands hc _ ih =>
    rw [List.forall_mem_cons] at hls
    obtain ⟨d, hd, -, htext⟩ := exists_isNormal_of_mem_renderedLines hls.1
    obtain rfl : d = c := Except.ok.inj (hd.symm.trans hc)
    have hne : d.text ≠ [] := htext ▸ (r.mem_renderedLines.1 hls.1).1
    rw [Command.texts_cons hne, htext, ih hls.2]

/-- What is written of the commands that lines hold. -/
theorem renderedLines_of_holdsCommands (hkind : kind ≠ .sshKey) {ls : List Text}
    {commands : List Command} (h : HoldsCommands ls commands) (boot : Bool) :
    renderedLines { r with commands := commands, hasBootstrap := boot } kind =
      (if boot then Command.texts Bootstrap.commands else []) ++ Command.texts commands := by
  have hnormal : ∀ c ∈ commands, c.IsNormal := by
    intro c hc
    obtain ⟨l, -, hl⟩ := exists_mem_of_forall₂ h hc
    exact Command.isNormal_of_parse hl
  rw [renderedLines_eq, ownCommands, if_neg hkind, Command.texts_map_clone hnormal]

theorem not_isBlank_of_mem_renderedLines {l : Text} (hl : l ∈ r.renderedLines kind) :
    ¬ Text.IsBlank l := fun hb =>
  (r.mem_renderedLines.1 hl).1 (trim_of_mem_renderedLines hl ▸ Text.trim_eq_nil_iff.2 hb)

/-- No line is blank, so only the lines of the bootstrap script are left out. -/
theorem ownLines_renderedLines : ownLines (r.renderedLines kind) =
    if Bootstrap.opens (r.renderedLines kind) then (r.renderedLines kind).drop 2
      else r.renderedLines kind := by
  refine List.filter_eq_self.2 fun l hl => ?_
  have hmem : l ∈ r.renderedLines kind := by
    split at hl
    · exact List.mem_of_mem_drop hl
    · exact hl
  simpa using not_isBlank_of_mem_renderedLines hmem

/-- The lines of a recipe that is no SSH key restore it exactly if a first line that looks like the
bootstrap script is the script. -/
theorem IsRead.isRestoredBy_iff (h : r.IsRead) (hkind : kind ≠ .sshKey) :
    r.IsRestoredBy kind (r.renderedLines kind) ↔ r.OpensHonestly kind := by
  have hmigrate := h.map_migrate_renderedLines hkind
  obtain ⟨cs, hcs⟩ : ∃ commands, HoldsCommands (r.renderedLines kind) commands :=
    exists_holdsCommands
  -- whatever they hold, what is written is the script and the lines after it
  have hlines {commands : List Command} (hc : HoldsCommands (r.renderedLines kind) commands) :
      renderedLines { r with
        commands := commands
        hasBootstrap := Bootstrap.opens (r.renderedLines kind) } kind =
      (if Bootstrap.opens (r.renderedLines kind) then Command.texts Bootstrap.commands else []) ++
        ownLines (r.renderedLines kind) := by
    rw [renderedLines_of_holdsCommands hkind hc]
    rw [HoldsCommands, hmigrate] at hc
    rw [texts_of_forall₂ (fun l hl => mem_of_mem_ownLines hl) hc]
  have hiff : r.IsRestoredBy kind (r.renderedLines kind) ↔
      (if Bootstrap.opens (r.renderedLines kind) then Command.texts Bootstrap.commands else []) ++
        ownLines (r.renderedLines kind) = r.renderedLines kind := by
    rw [IsRestoredBy, hmigrate]
    constructor
    · rintro ⟨commands, hc, hsame⟩
      exact (hlines hc).symm.trans hsame
    · intro hsame
      exact ⟨cs, hcs, (hlines hcs).trans hsame⟩
  rw [hiff, ownLines_renderedLines, OpensHonestly, hmigrate]
  cases Bootstrap.opens (r.renderedLines kind) with
  | false => simp
  | true =>
    have hsplit := List.take_append_drop 2 (r.renderedLines kind)
    simp only [↓reduceIte, forall_const]
    constructor
    · intro heq
      exact (List.append_cancel_right (heq.trans hsplit.symm)).symm
    · intro htake
      rw [← htake]
      exact hsplit

/-- An SSH key is written of its name alone, so only the bootstrap script can come in. -/
theorem isRestoredBy_sshKey_iff :
    r.IsRestoredBy .sshKey (r.renderedLines (.recipe .sshKey)) ↔ r.OpensHonestly .sshKey := by
  obtain ⟨cs, hcs⟩ : ∃ commands, HoldsCommands (r.renderedLines (.recipe .sshKey)) commands :=
    exists_holdsCommands
  have hiff : r.IsRestoredBy .sshKey (r.renderedLines (.recipe .sshKey)) ↔
      (if Bootstrap.opens ((r.renderedLines (.recipe .sshKey)).map Bootstrap.migrate) then
        Command.texts Bootstrap.commands else []) ++ [(sshKeyCommand r.name).text] =
        r.renderedLines (.recipe .sshKey) := by
    constructor
    · rintro ⟨commands, -, hsame⟩
      exact renderedLines_sshKey.symm.trans hsame
    · intro hsame
      exact ⟨cs, hcs, renderedLines_sshKey.trans hsame⟩
  have hlen : (Command.texts Bootstrap.commands).length = 2 := by decide
  rw [hiff, OpensHonestly, renderedLines_sshKey]
  cases r.hasBootstrap with
  | true =>
    have hopens : Bootstrap.opens ((Command.texts Bootstrap.commands ++
        [(sshKeyCommand r.name).text]).map Bootstrap.migrate) = true := rfl
    have htake : (Command.texts Bootstrap.commands ++ [(sshKeyCommand r.name).text]).take 2 =
        Command.texts Bootstrap.commands := by rw [← hlen, List.take_left]
    simp only [↓reduceIte, hopens, htake, imp_self]
  | false =>
    simp only [Bool.false_eq_true, ↓reduceIte, List.nil_append]
    cases Bootstrap.opens ([(sshKeyCommand r.name).text].map Bootstrap.migrate) with
    | false => simp
    | true =>
      -- one line is not the two of the script, nor can they come before it
      simp only [↓reduceIte, forall_const]
      constructor <;> intro heq <;> have hlen' := congrArg List.length heq
      · rw [List.length_append, hlen] at hlen'
        simp at hlen'
      · rw [hlen] at hlen'
        simp at hlen'

/-- Without line feeds the lines below the header are the texts that are written there. -/
theorem lowerLines_of_notMem (h : ∀ l ∈ r.contentLines kind, '\n' ∉ l) :
    r.lowerLines kind = (r.contentLines kind).drop 1 := by
  rw [lowerLines, Text.flatMap_splitOn_of_notMem fun l hl => h l (List.mem_of_mem_drop hl)]
  exact Text.map_dropReturn_eq_self fun l hl =>
    r.trimEnd_of_mem_contentLines kind (List.mem_of_mem_drop hl)

/-- If no line below the header is a marker, the end marker is the first line that can be taken for
one. -/
theorem isKept_iff_isRestoredBy (hplain : ∀ l ∈ r.lowerLines kind, Block.Plain l) :
    r.IsKept kind ↔ r.IsRestoredBy kind ((r.lowerLines kind).drop 1) := by
  constructor
  · rintro ⟨body, stop, rest, hcut, hbody, hstop, hrestored, -⟩
    obtain ⟨rfl, -, -⟩ := Block.append_stop_inj hplain hbody Block.stops_endMarker hstop hcut
    exact hrestored
  · intro hrestored
    exact ⟨_, Block.endMarker, [], rfl, hplain, Block.stops_endMarker, hrestored, [], .nil, by simp⟩

/-- **Recipes that keep to their lines.**  Such a recipe is kept exactly if a first line that looks
like the bootstrap script is the script. -/
theorem IsRead.isKept_iff_of_notMem (h : r.IsRead) (hv : '\n' ∉ r.looseValue kind) :
    r.IsKept kind ↔ r.OpensHonestly kind := by
  have hlower := lowerLines_of_notMem (h.newline_notMem_contentLines_iff.2 (.inr hv))
  have hplain : ∀ l ∈ r.lowerLines kind, Block.Plain l := by
    rw [hlower]
    exact fun l hl => plain_of_mem_contentLines (List.mem_of_mem_drop hl)
  rw [isKept_iff_isRestoredBy hplain, hlower, drop_contentLines]
  by_cases hkind : kind = .sshKey
  · subst hkind
    exact isRestoredBy_sshKey_iff
  · exact h.isRestoredBy_iff hkind

theorem IsRead.isSettled_iff (h : r.IsRead) : r.IsSettled kind ↔ r.IsKept kind := by
  unfold IsSettled
  split
  next => rfl
  next hv => exact (h.isKept_iff_of_notMem hv).symm

end Recipe

/-! ### Settled cards -/

/-- The card is written again as it is; lists of packages always are. -/
def Card.IsSettled : Card → Prop
  | recipe kind r => r.IsSettled kind
  | packages _ => True

end BuildCards
