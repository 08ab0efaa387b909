import BuildCards.Proofs.FormerName
import BuildCards.Proofs.Unwrapped

/-!
# What is reported of a document

While a document is read, events are reported by three functions that know nothing of each other.
For a document that is read in the end, its cards tell the events: `Card.report` says of a card what
was reported of its text, from nothing but the fields of the card, and before that the markers
around the text were reported.

**Main theorem** (`Document.isTold_of_parse`): the events of a document that is read are those that
its cards tell, in the order of the cards, with the numbers of the lines of the markers.
-/

namespace BuildCards

/-! ### Recipes -/

namespace Recipe

variable {kind : RecipeKind} {r : Recipe}

/-- What was reported while the recipe was read. -/
def report (kind : RecipeKind) (r : Recipe) : List Event :=
  let lines := Text.lines (r.source.getD [])
  (if r.legacyAdd then [.legacyAdd kind (lines.headD [])] else []) ++
    ((lines.drop 2).filter Bootstrap.holdsFormerName).map .migratedScript ++
    if r.hasBootstrap then [.foundBootstrap kind] else []

/-- A recipe without a text has nothing to report. -/
theorem report_blank (kind : RecipeKind) (id : Text) : (blank kind id).report kind = [] := rfl

/-- The recipe keeps all that was reported while it was read. -/
theorem log_of_parse {id : Text} {source : Option Text} (h : parse kind id source = .ok r) :
    log kind source = r.report kind := by
  cases source with
  | none =>
    rw [parse, Except.ok.injEq] at h
    exact h ▸ (report_blank kind id).symm
  | some text =>
    cases text with
    | nil =>
      rw [parse, Except.ok.injEq] at h
      exact h ▸ (report_blank kind id).symm
    | cons a text =>
      obtain ⟨header, commands, hheader, -, rfl⟩ := parseText_eq_ok_iff.1 h
      have hfilter : ((bodyLines (a :: text)).filter fun line => Bootstrap.migrate line ≠ line) =
          (bodyLines (a :: text)).filter Bootstrap.holdsFormerName :=
        List.filter_congr fun line _ => by simp [Bootstrap.migrate_ne_iff]
      simp only [log, hheader, logText, hfilter]
      rfl

/-- The only warning is that of a header in the legacy form. -/
theorem countP_warn_report (r : Recipe) (kind : RecipeKind) :
    (r.report kind).countP (·.level = .warn) = if r.legacyAdd then 1 else 0 := by
  have hscript (lines : List Text) :
      (lines.map Event.migratedScript).countP (·.level = .warn) = 0 := by
    simp [List.countP_map, Event.level, Function.comp_def]
  have hfound : (if r.hasBootstrap then [Event.foundBootstrap kind] else []).countP
      (·.level = .warn) = 0 := by
    split <;> rfl
  simp only [report, List.countP_append, hscript, hfound]
  split <;> rfl

theorem source_of_parse {id : Text} {source : Option Text} (h : parse kind id source = .ok r)
    (hsource : source ≠ some []) : r.source = source := by
  cases source with
  | none =>
    rw [parse, Except.ok.injEq] at h
    exact h ▸ rfl
  | some text =>
    cases text with
    | nil => exact absurd rfl hsource
    | cons a text =>
      obtain ⟨header, commands, -, -, rfl⟩ := parseText_eq_ok_iff.1 h
      rfl

end Recipe

/-! ### Cards -/

theorem Packages.source_parse (id : Text) {source : Option Text} (hsource : source ≠ some []) :
    (parse id source).source = source := by
  cases source with
  | none => rfl
  | some text =>
    cases text with
    | nil => exact absurd rfl hsource
    | cons a text => rfl

/-- The text of a block is not empty. -/
theorem Block.source_ne_nil (b : Block) : b.source ≠ some [] := by
  intro hnil
  have hblank : Text.IsBlank (Text.joinLines b.body) := by
    by_contra hblank
    rw [Block.source, if_neg hblank, Option.some.injEq] at hnil
    exact hblank (by simp [hnil, Text.IsBlank])
  rw [Block.source, if_pos hblank] at hnil
  simp at hnil

namespace Card

variable {card : Card}

/-- The text of the card had a header in the legacy form. -/
def legacyAdd : Card → Bool
  | recipe _ r => r.legacyAdd
  | packages _ => false

/-- What was reported while the card was read. -/
def report : Card → List Event
  | recipe kind r => r.report kind
  | packages _ => []

/-- What was reported while the card was read between markers on these lines. -/
def reportBetween (card : Card) (start stop : Nat) : List Event :=
  .parsingBlock card.kind start stop :: card.report

theorem log_of_parse {kind : Kind} {id : Text} {source : Option Text}
    (h : parse kind id source = .ok card) : log kind source = card.report := by
  rcases eq_of_parse h with ⟨k, r, rfl, hr, rfl⟩ | ⟨rfl, rfl⟩
  · exact Recipe.log_of_parse hr
  · rfl

theorem source_of_parse {kind : Kind} {id : Text} {source : Option Text}
    (h : parse kind id source = .ok card) (hsource : source ≠ some []) : card.source = source := by
  rcases eq_of_parse h with ⟨k, r, rfl, hr, rfl⟩ | ⟨rfl, rfl⟩
  · exact Recipe.source_of_parse hr hsource
  · exact Packages.source_parse id hsource

theorem countP_warn_report (card : Card) :
    card.report.countP (·.level = .warn) = if card.legacyAdd then 1 else 0 := by
  cases card with
  | recipe kind r => exact r.countP_warn_report kind
  | packages p => rfl

end Card

/-! ### Where blocks stand -/

/-- The markers of the block are on the lines with its numbers. -/
structure Block.IsMarked (lines : List Text) (b : Block) : Prop where
  /-- The start marker names the kind. -/
  start : ∃ line label, lines[b.start - 1]? = some line ∧ Block.Starts line label ∧
    b.kind.label = Text.trim label
  /-- The end marker comes later. -/
  stop : ∃ line, lines[b.stop - 1]? = some line ∧ Block.Stops line

namespace Layout

variable {n : Nat} {lines : List Text} {blocks : List Block}

/-- Blocks are parts of the lines. -/
theorem exists_eq_append (h : Layout n lines blocks) {b : Block} (hb : b ∈ blocks) :
    ∃ before line label stop after, lines = before ++ line :: (b.body ++ stop :: after) ∧
      b.start = n + before.length ∧ b.stop = b.start + b.body.length + 1 ∧
      Block.Starts line label ∧ b.kind.label = Text.trim label ∧ Block.Stops stop := by
  induction h with
  | nil => simp at hb
  | @blank n first rest blocks _ _ ih =>
    obtain ⟨before, line, label, stop, after, rfl, hstart, hrest⟩ := ih hb
    exact ⟨first :: before, line, label, stop, after, rfl,
      by rw [hstart, List.length_cons]; omega, hrest⟩
  | @block n first label kind body stop rest blocks hline hkind hbody hstop _ ih =>
    rcases List.mem_cons.1 hb with rfl | hb
    · exact ⟨[], first, label, stop, rest, rfl, rfl, rfl, hline, hkind, hstop⟩
    · obtain ⟨before, line, label, stop', after, rfl, hstart, hrest⟩ := ih hb
      refine ⟨first :: (body ++ stop :: before), line, label, stop', after, by simp, ?_, hrest⟩
      simp only [hstart, List.length_cons, List.length_append]
      omega

theorem le_start (h : Layout n lines blocks) {b : Block} (hb : b ∈ blocks) : n ≤ b.start := by
  obtain ⟨before, -, -, -, -, -, hstart, -⟩ := h.exists_eq_append hb
  omega

theorem start_lt_stop (h : Layout n lines blocks) {b : Block} (hb : b ∈ blocks) :
    b.start < b.stop := by
  obtain ⟨-, -, -, -, -, -, -, hstop, -⟩ := h.exists_eq_append hb
  omega

/-- A block ends before the next one starts. -/
theorem pairwise_stop_lt_start (h : Layout n lines blocks) :
    blocks.Pairwise fun b b' => b.stop < b'.start := by
  induction h with
  | nil => exact .nil
  | blank _ _ ih => exact ih
  | @block n line label kind body stop rest blocks _ _ _ _ hrest ih =>
    refine .cons (fun b' hb' => ?_) ih
    have hle := hrest.le_start hb'
    change n + body.length + 1 < b'.start
    omega

theorem isMarked (h : Layout 1 lines blocks) {b : Block} (hb : b ∈ blocks) : b.IsMarked lines := by
  obtain ⟨before, line, label, stop, after, hlines, hstart, hstop, hline, hkind, hmark⟩ :=
    h.exists_eq_append hb
  have hbefore : b.start - 1 = before.length := by omega
  have hbody : b.stop - 1 = before.length + (b.body.length + 1) := by omega
  refine ⟨⟨line, label, ?_, hline, hkind⟩, ⟨stop, ?_, hmark⟩⟩
  · simp [hlines, hbefore]
  · simp [hlines, hbody]

end Layout

/-! ### Documents -/

/-- A card of a document was read from one of its blocks. -/
theorem ReadsAs.exists_block {ids : IdSupply} {blocks : List Block} {cards : List Card}
    (h : ReadsAs ids blocks cards) {card : Card} (hcard : card ∈ cards) :
    ∃ b ∈ blocks, ∃ id, Card.parse b.kind id b.source = .ok card := by
  induction h with
  | nil => simp at hcard
  | cons hparse _ ih =>
    rcases List.mem_cons.1 hcard with rfl | hcard
    · exact ⟨_, List.mem_cons_self, _, hparse⟩
    · obtain ⟨b, hb, hparse⟩ := ih hcard
      exact ⟨b, List.mem_cons_of_mem _ hb, hparse⟩

namespace Document

variable {ids : IdSupply} {blocks : List Block} {cards : List Card}

/-- The events are told by the cards, each of which was read from one of the blocks of the text. -/
structure IsTold (text : Text) (blocks : List Block) (cards : List Card) (events : List Event) :
    Prop where
  /-- The text is these blocks and blank lines. -/
  layout : Layout 1 (Text.lines text) blocks
  /-- The cards have the kinds and the texts of the blocks. -/
  readFrom : List.Forall₂ (fun b card => card.kind = b.kind ∧ card.source = b.source) blocks cards
  /-- The numbers of a block are those of the lines with its markers. -/
  marked : ∀ b ∈ blocks, b.IsMarked (Text.lines text)
  /-- A block starts before it ends. -/
  start_lt_stop : ∀ b ∈ blocks, b.start < b.stop
  /-- A block ends before the next one starts. -/
  stop_lt_start : blocks.Pairwise fun b b' => b.stop < b'.start
  /-- Each block is reported, and then what its card tells. -/
  told : events =
    (List.zipWith (fun b card => card.reportBetween b.start b.stop) blocks cards).flatten
  /-- Lists of packages and cards without a text have nothing to tell. -/
  silent : ∀ card ∈ cards, card.kind = .packages ∨ card.source = none → card.report = []
  /-- Warnings count the headers in the legacy form. -/
  warnings : events.countP (·.level = .warn) = cards.countP Card.legacyAdd

/-- What is reported of a block is told by its card. -/
theorem flatMap_report (h : ReadsAs ids blocks cards) : blocks.flatMap Block.report =
    (List.zipWith (fun b card => card.reportBetween b.start b.stop) blocks cards).flatten := by
  induction h with
  | nil => rfl
  | @cons ids b blocks card cards hcard _ ih =>
    have hreport : b.report = card.reportBetween b.start b.stop := by
      rw [Card.reportBetween, Card.kind_of_parse hcard, ← Card.log_of_parse hcard]
      rfl
    rw [List.flatMap_cons, List.zipWith_cons_cons, List.flatten_cons, hreport, ih]

theorem forall₂_of_readsAs (h : ReadsAs ids blocks cards) :
    List.Forall₂ (fun b card => card.kind = b.kind ∧ card.source = b.source) blocks cards := by
  induction h with
  | nil => exact .nil
  | @cons ids b blocks card cards hcard _ ih =>
    exact .cons ⟨Card.kind_of_parse hcard, Card.source_of_parse hcard b.source_ne_nil⟩ ih

theorem countP_warn_flatten (h : ReadsAs ids blocks cards) :
    (List.zipWith (fun b card => Card.reportBetween card b.start b.stop) blocks
      cards).flatten.countP (·.level = .warn) = cards.countP Card.legacyAdd := by
  induction h with
  | nil => rfl
  | @cons ids b blocks card cards _ _ ih =>
    have hcard : (card.reportBetween b.start b.stop).countP (·.level = .warn) =
        if card.legacyAdd then 1 else 0 := by
      rw [Card.reportBetween, List.countP_cons, card.countP_warn_report]
      rfl
    rw [List.zipWith_cons_cons, List.flatten_cons, List.countP_append, hcard, ih, List.countP_cons,
      Nat.add_comm]

/-- Packages and cards without a text have nothing to tell. -/
theorem report_of_parse {b : Block} {id : Text} {card : Card}
    (h : Card.parse b.kind id b.source = .ok card)
    (hcard : card.kind = .packages ∨ card.source = none) : card.report = [] := by
  rcases hcard with hkind | hsource
  · cases card with
    | recipe kind r => simp [Card.kind] at hkind
    | packages p => rfl
  · have hlog := Card.log_of_parse h
    rw [← Card.source_of_parse h b.source_ne_nil, hsource] at hlog
    rw [← hlog]
    cases b.kind <;> rfl

/-- **Cards tell what was reported.** -/
theorem isTold_of_parse {text : Text} (h : (parse text ids).result = .ok cards) :
    ∃ blocks, IsTold text blocks cards (parse text ids).events := by
  obtain ⟨blocks, hlayout, hreads⟩ := parse_eq_ok_iff.1 h
  have hevents : (parse text ids).events =
      (List.zipWith (fun b card => card.reportBetween b.start b.stop) blocks cards).flatten := by
    rw [parse_eq_readBlocks hlayout, readBlocks_of_readsAs hreads, flatMap_report hreads]
  exact ⟨blocks, {
    layout := hlayout
    readFrom := forall₂_of_readsAs hreads
    marked := fun b hb => hlayout.isMarked hb
    start_lt_stop := fun b hb => hlayout.start_lt_stop hb
    stop_lt_start := hlayout.pairwise_stop_lt_start
    told := hevents
    silent := fun card hmem hcard => by
      obtain ⟨b, -, id, hparse⟩ := hreads.exists_block hmem
      exact report_of_parse hparse hcard
    warnings := hevents ▸ countP_warn_flatten hreads }⟩

/-- A document with something to report of its first block and nothing of its second. -/
def formerText : Text :=
  "#Start: File\nADD a /b\n\nADD ./translation_rules.sh x\n#End\n\n#Start: Packages\n#End".toList

/-- What is reported of it. -/
def formerEvents : List Event :=
  [.parsingBlock (.recipe .file) 1 5, .legacyAdd .file "ADD a /b".toList,
    .migratedScript "ADD ./translation_rules.sh x".toList, .foundBootstrap .file,
    .parsingBlock .packages 7 8]

/-- The cards of this document tell what is reported of it. -/
theorem isTold_formerText : ∃ cards blocks,
    (parse formerText IdSupply.sequential).result = .ok cards ∧
      IsTold formerText blocks cards formerEvents := by
  have hread : (parse formerText IdSupply.sequential).events = formerEvents ∧
      (parse formerText IdSupply.sequential).result.isOk = true := by decide +kernel
  obtain ⟨hevents, haccepted⟩ := hread
  cases hparse : (parse formerText IdSupply.sequential).result with
  | error fault => simp [hparse, Except.isOk, Except.toBool] at haccepted
  | ok cards =>
    obtain ⟨blocks, htold⟩ := isTold_of_parse hparse
    exact ⟨cards, blocks, rfl, hevents ▸ htold⟩

end Document

end BuildCards
