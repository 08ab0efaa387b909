import BuildCards.Proofs.Grammar
import BuildCards.Proofs.RecipeLines

/-!
# One document after the other

Two documents with a line feed between them are read like one after the other.  The cards of the
second draw the identifiers that the first has left, and its lines have later numbers.

* `Layout.of_lines`: the seam.  A document that was read ends outside of a block, so how its last
  line ends makes no difference.
* `Outline.ofLinesFrom_shift`: the numbers.  Lines with later numbers have the same blocks with
  later numbers, and a fault with later numbers.
* `Document.readBlocks_shift`: the cards.  Later numbers have no part in what blocks hold, and
  behind the blocks of a document they are read with the identifiers that are left.

**Main theorem** (`Document.parse_append_newline`): what a text reads as that is put behind a
document.
-/

namespace BuildCards

/-! ### Later lines -/

/-- The flaw in lines whose numbers are larger by `k`. -/
def Flaw.shift (k : Nat) : Flaw → Flaw
  | .unclosed start => .unclosed (start + k)
  | flaw => flaw

/-- The fault in lines whose numbers are larger by `k`. -/
def Fault.shift (k : Nat) : Fault → Fault
  | .document line flaw => .document (line + k) (flaw.shift k)
  | fault => fault

/-- The block in lines whose numbers are larger by `k`. -/
def Block.shift (k : Nat) (b : Block) : Block := { b with start := b.start + k, stop := b.stop + k }

/-- The open block in lines whose numbers are larger by `k`. -/
def Opening.shift (k : Nat) (o : Opening) : Opening := { o with start := o.start + k }

/-- The outline of lines whose numbers are larger by `k`. -/
def Outline.shift (k : Nat) (o : Outline) : Outline :=
  ⟨o.blocks.map (Block.shift k), o.fault.map (Fault.shift k)⟩

/-- The faults of labels and cards are not about numbers of lines. -/
theorem Kind.shift_of_ofLabel {label : Text} {fault : Fault} (h : ofLabel label = .error fault)
    (k : Nat) : fault.shift k = fault := by
  unfold ofLabel at h
  split at h
  · simp at h
  · rw [← Except.error.inj h]
    rfl

/-- The fault of a text that holds no card quotes a line. -/
theorem Card.exists_line_of_parse {kind : Kind} {id : Text} {source : Option Text} {fault : Fault}
    (h : parse kind id source = .error fault) :
    ∃ line, fault = .addLine line ∨ fault = .instruction line := by
  cases kind with
  | packages => simp [parse] at h
  | recipe kind =>
    cases source with
    | none => simp [parse, Recipe.parse, Except.map] at h
    | some text =>
      cases text with
      | nil => simp [parse, Recipe.parse, Except.map] at h
      | cons c text =>
        have hparse : Recipe.parseText kind id (c :: text) = .error fault := by
          cases hread : Recipe.parseText kind id (c :: text) with
          | error fault' => simpa [parse, Recipe.parse, hread, Except.map] using h
          | ok r => simp [parse, Recipe.parse, hread, Except.map] at h
        exact Recipe.exists_line_of_parseText hparse

theorem Card.shift_of_parse {kind : Kind} {id : Text} {source : Option Text} {fault : Fault}
    (h : parse kind id source = .error fault) (k : Nat) : fault.shift k = fault := by
  obtain ⟨line, rfl | rfl⟩ := exists_line_of_parse h
  · rfl
  · rfl

/-- **Lines with later numbers.**  They have the same outline with later numbers. -/
theorem Outline.ofLinesFrom_shift (k : Nat) (opening : Option Opening) (n : Nat)
    (lines : List Text) :
    ofLinesFrom (opening.map (Opening.shift k)) (n + k) lines =
      (ofLinesFrom opening n lines).shift k := by
  induction lines generalizing opening n with
  | nil => cases opening <;> rfl
  | cons line rest ih =>
    have hn : n + k + 1 = n + 1 + k := by omega
    cases opening with
    | none =>
      cases hline : Marker.ofLine line with
      | start label =>
        cases hlabel : Kind.ofLabel label with
        | ok kind =>
          simp only [Option.map_none, ofLinesFrom, hline, hlabel, hn]
          exact ih (some ⟨kind, n, []⟩) (n + 1)
        | error fault =>
          simp [ofLinesFrom, hline, hlabel, shift, Kind.shift_of_ofLabel hlabel k]
      | stop => simp [ofLinesFrom, hline, shift, Fault.shift, Flaw.shift]
      | blank =>
        simp only [Option.map_none, ofLinesFrom, hline, hn]
        exact ih none (n + 1)
      | other => simp [ofLinesFrom, hline, shift, Fault.shift, Flaw.shift]
    | some o =>
      have hplain :
          ofLinesFrom (some { o.shift k with lines := line :: o.lines }) (n + 1 + k) rest =
            (ofLinesFrom (some { o with lines := line :: o.lines }) (n + 1) rest).shift k :=
        ih (some { o with lines := line :: o.lines }) (n + 1)
      cases hline : Marker.ofLine line with
      | start label =>
        simp [ofLinesFrom, hline, shift, Fault.shift, Flaw.shift, Opening.shift]
      | stop =>
        have hclosed := ih none (n + 1)
        rw [Option.map_none] at hclosed
        simp only [Option.map_some, ofLinesFrom, hline, hn, hclosed]
        rfl
      | blank =>
        simp only [Option.map_some, ofLinesFrom, hline, hn]
        exact hplain
      | other =>
        simp only [Option.map_some, ofLinesFrom, hline, hn]
        exact hplain

/-! ### The seam -/

namespace Layout

variable {n : Nat} {blocks : List Block}

/-- The last line of a layout is blank or an end marker, and only what it holds between its blanks
matters. -/
theorem concat_congr {ls : List Text} {l l' : Text} (ht : Text.trim l' = Text.trim l)
    (h : Layout n (ls ++ [l]) blocks) : Layout n (ls ++ [l']) blocks := by
  generalize hlines : ls ++ [l] = lines at h
  induction h generalizing ls with
  | nil => simp at hlines
  | @blank n line rest blocks hline hrest ih =>
    cases ls with
    | nil =>
      rw [List.nil_append, List.cons.injEq] at hlines
      obtain ⟨rfl, rfl⟩ := hlines
      have hline' : Text.IsBlank l' := by rwa [← Text.isBlank_trim, ht, Text.isBlank_trim]
      exact .blank hline' hrest
    | cons first ls =>
      rw [List.cons_append, List.cons.injEq] at hlines
      obtain ⟨rfl, hlines⟩ := hlines
      exact .blank hline (ih hlines)
  | @block n line label kind body stop rest blocks hline hkind hbody hstop hrest ih =>
    cases ls with
    | nil => simp at hlines
    | cons first ls =>
      rw [List.cons_append, List.cons.injEq] at hlines
      obtain ⟨rfl, hlines⟩ := hlines
      rcases List.eq_nil_or_concat' rest with rfl | ⟨init, last, rfl⟩
      · -- the last line is the end marker of the block
        obtain ⟨rfl, hlast⟩ := List.append_inj' hlines rfl
        obtain rfl : l = stop := (List.cons.inj hlast).1
        exact .block hline hkind hbody (ht.trans hstop) hrest
      · have hcut : ls ++ [l] = (body ++ stop :: init) ++ [last] := by simpa using hlines
        obtain ⟨rfl, hlast⟩ := List.append_inj' hcut rfl
        have hrest' : Layout (n + body.length + 2) (init ++ [l']) blocks := ih (by rw [hlast])
        simpa using Layout.block hline hkind hbody hstop hrest'

/-- The lines of a document have the same layout when a line feed ends the last one too. -/
theorem of_lines {t : Text} (h : Layout n (Text.lines t) blocks) :
    Layout n ((t.splitOn '\n').map Text.dropReturn) blocks := by
  obtain ⟨init, last, hpieces⟩ :=
    (List.eq_nil_or_concat' (t.splitOn '\n')).resolve_left (List.splitOn_ne_nil _ _)
  rw [Text.lines, hpieces] at h
  rw [hpieces, List.map_append, List.map_singleton]
  by_cases hlast : last = []
  · subst hlast
    rw [Text.linesOfPieces_concat_nil] at h
    have hblank : Layout (n + (init.map Text.dropReturn).length) [Text.dropReturn []] [] :=
      .blank (by decide) .nil
    simpa using h.append hblank
  · rw [Text.linesOfPieces_concat hlast] at h
    exact h.concat_congr (Text.trim_dropReturn last)

end Layout

/-! ### Cards one after the other -/

namespace Document

variable {ids : IdSupply} {bs : List Block} {cards : List Card}

/-- The numbers of lines have no part in what blocks hold. -/
theorem readBlocks_shift (k : Nat) (ids : IdSupply) (bs : List Block) :
    (readBlocks ids (bs.map (Block.shift k))).result = (readBlocks ids bs).result ∧
      (readBlocks ids (bs.map (Block.shift k))).ids = (readBlocks ids bs).ids := by
  induction bs generalizing ids with
  | nil => exact ⟨rfl, rfl⟩
  | cons b bs ih =>
    have hfirst : (readBlock (b.shift k) ids).result = (readBlock b ids).result := rfl
    have hids : (readBlock (b.shift k) ids).ids = (readBlock b ids).ids := rfl
    obtain ⟨hlater, hlater'⟩ := ih (readBlock b ids).ids
    simp only [List.map_cons, readBlocks, hfirst, hids]
    cases (readBlock b ids).result with
    | error fault => exact ⟨rfl, rfl⟩
    | ok card => exact ⟨by simp only [hlater], hlater'⟩

theorem shift_of_readBlocks {fault : Fault} (h : (readBlocks ids bs).result = .error fault)
    (k : Nat) : fault.shift k = fault := by
  induction bs generalizing ids with
  | nil => simp [readBlocks] at h
  | cons b bs ih =>
    cases hfirst : (readBlock b ids).result with
    | error fault' =>
      simp only [readBlocks, hfirst, Except.error.injEq] at h
      rw [← h]
      exact Card.shift_of_parse hfirst k
    | ok card =>
      simp only [readBlocks, hfirst] at h
      cases hlater : (readBlocks (readBlock b ids).ids bs).result with
      | error fault' =>
        simp only [hlater, Except.map, Except.error.injEq] at h
        exact ih (h ▸ hlater)
      | ok later => simp [hlater, Except.map] at h

/-! ### Documents -/

/-- The outline of a text behind a document. -/
theorem outline_append_newline {a b : Text} {blocks : List Block}
    (h : Layout 1 (Text.lines a) blocks) :
    Outline.ofLines (Text.lines (a ++ '\n' :: b)) =
      ⟨blocks ++ ((Outline.ofLines (Text.lines b)).shift (a.count '\n' + 1)).blocks,
        ((Outline.ofLines (Text.lines b)).shift (a.count '\n' + 1)).fault⟩ := by
  have hlength : ((a.splitOn '\n').map Text.dropReturn).length = a.count '\n' + 1 := by
    rw [List.length_map, Text.length_splitOn_newline]
  have hshift := Outline.ofLinesFrom_shift (a.count '\n' + 1) none 1 (Text.lines b)
  rw [Option.map_none] at hshift
  rw [Text.lines_append_newline, Outline.ofLines, Outline.ofLinesFrom_append h.of_lines, hlength,
    hshift]
  rfl

/-- **Documents compose.**  A text behind a document and a line feed is read exactly if it is read
on its own with the identifiers that the document has left.  Then its cards follow those of the
document; otherwise the fault is the same, with the numbers of lines that it has there. -/
theorem parse_append_newline {a b : Text} (h : (parse a ids).result = .ok cards) :
    (parse (a ++ '\n' :: b) ids).result =
        ((parse b (parse a ids).ids).result.mapError (Fault.shift (a.count '\n' + 1))).map
          (cards ++ ·) ∧
      (parse (a ++ '\n' :: b) ids).ids = (parse b (parse a ids).ids).ids := by
  obtain ⟨blocks, hlayout, hreads⟩ := parse_eq_ok_iff.1 h
  have hids : (parse a ids).ids = ids.skip blocks.length := by
    rw [parse_eq_readBlocks hlayout, readBlocks_of_readsAs hreads]
  have hall := @outline_append_newline a b blocks hlayout
  rw [hids]
  generalize a.count '\n' + 1 = k at hall ⊢
  simp only [parse, hall]
  generalize Outline.ofLines (Text.lines b) = o
  have happend := readBlocks_append hreads (o.blocks.map (Block.shift k))
  obtain ⟨hshift, hshift'⟩ := readBlocks_shift k (ids.skip blocks.length) o.blocks
  simp only [hshift, hshift'] at happend
  have hfault {fault : Fault} :
      (readBlocks (ids.skip blocks.length) o.blocks).result = .error fault →
        ∀ k, fault.shift k = fault := shift_of_readBlocks
  generalize readBlocks (ids.skip blocks.length) o.blocks = later at *
  cases hend : o.fault with
  | none =>
    simp only [Outline.shift, hend, Option.map_none, happend, and_true]
    cases hlater : later.result with
    | error fault => simp [Except.map, Except.mapError, hfault hlater k]
    | ok cards' => rfl
  | some fault =>
    simp only [Outline.shift, hend, Option.map_some, happend, and_true]
    cases hlater : later.result with
    | error fault' => simp [Except.map, Except.mapError, Except.bind, hfault hlater k]
    | ok cards' => rfl

/-- A document of two lines, the last of which ends in a carriage return. -/
def shortText : Text := "#Start: Packages\n#End\x0d".toList

/-- A block that begins inside of another one, in the second line. -/
def unclosedText : Text := "#Start: File\n#Start: File".toList

/-- Behind two lines, the fault of the second line is one of the fourth. -/
theorem parse_append_newline_unclosed :
    (parse shortText .sequential).result = .ok [.packages (Packages.blank "id-1".toList)] ∧
    (parse unclosedText (parse shortText .sequential).ids).result =
      .error (.document 2 (.unclosed 1)) ∧
    (parse (shortText ++ '\n' :: unclosedText) .sequential).result =
      .error (.document 4 (.unclosed 3)) := by
  have hshort : (parse shortText .sequential).result =
      .ok [.packages (Packages.blank "id-1".toList)] := by decide +kernel
  have hunclosed : (parse unclosedText (parse shortText .sequential).ids).result =
      .error (.document 2 (.unclosed 1)) := by decide +kernel
  refine ⟨hshort, hunclosed, ?_⟩
  rw [(parse_append_newline hshort).1, hunclosed]
  rfl

end Document

end BuildCards
