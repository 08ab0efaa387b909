import BuildCards.Proofs.Concatenation

/-!
# Identifiers that documents draw

A card gets its identifier before its text is looked at, and a block is read as soon as it is
closed.  So the identifiers that reading a document draws are as many as the blocks that were closed
when it stopped (`Closings`): a block whose text is rejected has drawn one, and a line that breaks
the block structure draws none.

**Main theorem** (`Document.ids_parse_of_closings`): that many identifiers are drawn.  If the
document is read, its cards have the identifiers drawn, one after the other
(`Document.map_id_of_parse`).
-/

namespace BuildCards

/-! ### Two sorts of faults -/

/-- The fault is that of a label or of the block structure, not of the text of a block. -/
def Fault.IsStructural : Fault → Prop
  | unknownKind _ => True
  | document _ _ => True
  | _ => False

theorem Block.Rejected.not_isStructural {b : Block} {fault : Fault} (h : b.Rejected fault) :
    ¬ fault.IsStructural := by
  obtain ⟨id, hparse⟩ := h
  obtain ⟨line, rfl | rfl⟩ := Card.exists_line_of_parse hparse
  · exact not_false
  · exact not_false

/-! ### Closed blocks -/

instance : DecidablePred Block.Stops :=
  fun line => inferInstanceAs (Decidable (Text.trim line = Block.endMarker))

/-- When the lines have been read to their end, or to the first line that offends, this many blocks
have been closed. -/
inductive Closings (lines : List Text) : Nat → Prop
  /-- No line offends, so each end marker closes a block. -/
  | closed (h : Closed lines) : Closings lines (lines.countP (Block.Stops ·))
  /-- No line offends, but the end of the last block is missing. -/
  | missingEnd {kind : Kind} {start : Nat} {body : List Text} (h : Open lines kind start body) :
      Closings lines (lines.countP (Block.Stops ·))
  /-- A line breaks the structure, so only the end markers before it close a block. -/
  | structural {before after : List Text} {line : Text} {fault : Fault}
      (hlines : lines = before ++ line :: after) (h : Offends before line fault)
      (hfault : fault.IsStructural) : Closings lines (before.countP (Block.Stops ·))
  /-- A line closes a block whose text is rejected. -/
  | rejected {before after : List Text} {line : Text} {fault : Fault}
      (hlines : lines = before ++ line :: after) (h : Offends before line fault)
      (hfault : ¬ fault.IsStructural) : Closings lines (before.countP (Block.Stops ·) + 1)

theorem exists_closings (lines : List Text) : ∃ n, Closings lines n := by
  rcases closed_or_open_or_offends lines with h | ⟨kind, start, body, h⟩ |
    ⟨before, line, after, fault, hlines, h⟩
  · exact ⟨_, .closed h⟩
  · exact ⟨_, .missingEnd h⟩
  · by_cases hfault : fault.IsStructural
    · exact ⟨_, .structural hlines h hfault⟩
    · exact ⟨_, .rejected hlines h hfault⟩

/-- The end markers of a layout are those of its blocks. -/
theorem Layout.countP_stops {n : Nat} {lines : List Text} {blocks : List Block}
    (h : Layout n lines blocks) : lines.countP (Block.Stops ·) = blocks.length := by
  induction h with
  | nil => rfl
  | blank hline _ ih =>
    have hstop := (Block.plain_of_isBlank hline).2
    rw [List.countP_cons_of_neg (by simpa using hstop), ih]
  | @block n line label kind body stop rest blocks hline hkind hbody hstop _ ih =>
    have hstart := Block.not_stops_of_starts hline
    have hplain : body.countP (Block.Stops ·) = 0 :=
      List.countP_eq_zero.2 fun l hl => by simpa using (hbody l hl).2
    rw [List.countP_cons_of_neg (by simpa using hstart), List.countP_append, hplain,
      List.countP_cons_of_pos (by simpa using hstop), ih, Nat.zero_add, List.length_cons]

/-- An end marker would close the open block. -/
theorem Open.exists_layout {before body : List Text} {line : Text} {kind : Kind} {start : Nat}
    (h : Open before kind start body) (hl : Block.Stops line) :
    ∃ blocks, Layout 1 (before ++ [line]) blocks := by
  obtain ⟨closed, first, label, rfl, ⟨blocks, hlay, -⟩, hf, hk, -, hb⟩ := h
  have hblock := Layout.block (n := 1 + closed.length) hf hk hb hl .nil
  exact ⟨_, by simpa using hlay.append hblock⟩

/-! ### Outlines -/

namespace Outline

/-- Lines without a fault are scanned into the blocks that they close. -/
theorem exists_blocks_of_closed {before : List Text} (h : Closed before) :
    ∃ blocks, blocks.length = before.countP (Block.Stops ·) ∧ (∀ b ∈ blocks, b.Accepted) ∧
      ∀ rest, (ofLines (before ++ rest)).blocks =
        blocks ++ (ofLinesFrom none (before.length + 1) rest).blocks := by
  obtain ⟨blocks, hlay, hacc⟩ := h
  refine ⟨blocks, hlay.countP_stops.symm, hacc, fun rest => ?_⟩
  rw [ofLines, ofLinesFrom_append hlay rest, Nat.add_comm]

theorem exists_blocks_of_open {before body : List Text} {kind : Kind} {start : Nat}
    (h : Open before kind start body) :
    ∃ blocks, blocks.length = before.countP (Block.Stops ·) ∧ (∀ b ∈ blocks, b.Accepted) ∧
      ∀ rest, (ofLines (before ++ rest)).blocks = blocks ++
        (ofLinesFrom (some ⟨kind, start, body.reverse⟩) (before.length + 1) rest).blocks := by
  obtain ⟨blocks, hacc, hscan⟩ := ofLinesFrom_open h
  refine ⟨blocks, ?_, hacc, fun rest => by rw [ofLines, hscan]⟩
  -- closing the open block adds one end marker and one block
  have hstops : Block.Stops Block.endMarker := by decide
  obtain ⟨blocks', hlay⟩ := h.exists_layout hstops
  have hscan' := congrArg Outline.blocks (hscan [Block.endMarker])
  have hlay' := congrArg Outline.blocks (ofLinesFrom_append hlay [])
  rw [List.append_nil] at hlay'
  have hblocks : blocks' = blocks ++ [⟨kind, start, body, before.length + 1⟩] := by
    rw [ofLinesFrom_stop _ hstops] at hscan'
    simpa [ofLinesFrom, cons] using hlay'.symm.trans hscan'
  have hcount := hlay.countP_stops
  rw [hblocks, List.countP_append, List.length_append, List.countP_singleton] at hcount
  simpa [hstops] using hcount.symm

/-- The first line that offends either adds no block or closes one whose text is rejected. -/
theorem exists_blocks_of_offends {before : List Text} {line : Text} {fault : Fault}
    (h : Offends before line fault) (after : List Text) :
    ∃ blocks, blocks.length = before.countP (Block.Stops ·) ∧ (∀ b ∈ blocks, b.Accepted) ∧
      ((ofLines (before ++ line :: after)).blocks = blocks ∧ fault.IsStructural ∨
        ∃ b rest, (ofLines (before ++ line :: after)).blocks = blocks ++ b :: rest ∧
          b.Rejected fault) := by
  cases h with
  | unknownKind hbefore hline hlabel =>
    obtain ⟨blocks, hlength, hacc, hscan⟩ := exists_blocks_of_closed hbefore
    refine ⟨blocks, hlength, hacc, .inl ⟨?_, trivial⟩⟩
    rw [hscan]
    simp [ofLinesFrom, Marker.ofLine_of_starts hline, Kind.ofLabel_eq_error hlabel]
  | strayEnd hbefore hline =>
    obtain ⟨blocks, hlength, hacc, hscan⟩ := exists_blocks_of_closed hbefore
    refine ⟨blocks, hlength, hacc, .inl ⟨?_, trivial⟩⟩
    rw [hscan]
    simp [ofLinesFrom, Marker.ofLine_of_stops hline]
  | strayText hbefore hline hblank =>
    obtain ⟨blocks, hlength, hacc, hscan⟩ := exists_blocks_of_closed hbefore
    refine ⟨blocks, hlength, hacc, .inl ⟨?_, trivial⟩⟩
    rw [hscan]
    simp [ofLinesFrom, Marker.ofLine_of_plain hline hblank]
  | unclosed hbefore hline =>
    obtain ⟨blocks, hlength, hacc, hscan⟩ := exists_blocks_of_open hbefore
    refine ⟨blocks, hlength, hacc, .inl ⟨?_, trivial⟩⟩
    rw [hscan]
    simp [ofLinesFrom, Marker.ofLine_of_starts hline]
  | card hbefore hline hcard =>
    obtain ⟨blocks, hlength, hacc, hscan⟩ := exists_blocks_of_open hbefore
    have hblocks := hscan (line :: after)
    rw [ofLinesFrom_stop _ hline, List.reverse_reverse] at hblocks
    exact ⟨blocks, hlength, hacc, .inr ⟨_, _, hblocks, hcard⟩⟩

end Outline

/-! ### Cards -/

theorem Card.id_of_parse {kind : Kind} {id : Text} {source : Option Text} {card : Card}
    (h : parse kind id source = .ok card) : card.id = id := by
  -- the card is what is read with its own identifier put in
  have hid := parse_withId kind id id source
  rw [h, Except.map, Except.ok.injEq] at hid
  rw [hid]
  cases card <;> rfl

namespace ReadsAs

variable {ids : IdSupply} {blocks : List Block} {cards : List Card}

theorem length_eq (h : ReadsAs ids blocks cards) : blocks.length = cards.length := by
  induction h with
  | nil => rfl
  | cons _ _ ih => rw [List.length_cons, List.length_cons, ih]

theorem map_id (h : ReadsAs ids blocks cards) :
    cards.map Card.id = (List.range cards.length).map fun i => ids.name (ids.drawn + i) := by
  induction h with
  | nil => rfl
  | cons hcard _ ih =>
    rw [List.map_cons, ih, Card.id_of_parse hcard, List.length_cons, List.range_succ_eq_map,
      List.map_cons, List.map_map]
    simp [IdSupply.next, Function.comp_def, Nat.add_assoc, Nat.add_comm 1]

end ReadsAs

/-! ### Documents -/

namespace Document

variable {ids : IdSupply} {blocks : List Block} {cards : List Card}

theorem ids_readBlocks_of_accepted (h : ∀ b ∈ blocks, b.Accepted) :
    (readBlocks ids blocks).ids = ids.skip blocks.length := by
  obtain ⟨cards, hcards⟩ := exists_readsAs h ids
  rw [readBlocks_of_readsAs hcards]

theorem ids_parse (text : Text) (ids : IdSupply) :
    (parse text ids).ids = (readBlocks ids (Outline.ofLines (Text.lines text)).blocks).ids := by
  rw [parse]
  cases (Outline.ofLines (Text.lines text)).fault <;> rfl

/-- **One identifier for each block that was closed.** -/
theorem ids_parse_of_closings {text : Text} {n : Nat} (h : Closings (Text.lines text) n) :
    (parse text ids).ids = ids.skip n := by
  rw [ids_parse]
  cases h with
  | closed h =>
    obtain ⟨blocks, hlength, hacc, hscan⟩ := Outline.exists_blocks_of_closed h
    have hblocks : (Outline.ofLines (Text.lines text)).blocks = blocks := by
      simpa [Outline.ofLinesFrom] using hscan []
    rw [hblocks, ids_readBlocks_of_accepted hacc, hlength]
  | missingEnd h =>
    obtain ⟨blocks, hlength, hacc, hscan⟩ := Outline.exists_blocks_of_open h
    have hblocks : (Outline.ofLines (Text.lines text)).blocks = blocks := by
      simpa [Outline.ofLinesFrom] using hscan []
    rw [hblocks, ids_readBlocks_of_accepted hacc, hlength]
  | @structural before after line fault hlines h hfault =>
    obtain ⟨blocks, hlength, hacc, ⟨hblocks, -⟩ | ⟨b, rest, -, hb⟩⟩ :=
      Outline.exists_blocks_of_offends h after
    · rw [hlines, hblocks, ids_readBlocks_of_accepted hacc, hlength]
    · exact absurd hfault hb.not_isStructural
  | @rejected before after line fault hlines h hfault =>
    obtain ⟨blocks, hlength, hacc, ⟨-, hstructural⟩ | ⟨b, rest, hblocks, hb⟩⟩ :=
      Outline.exists_blocks_of_offends h after
    · exact absurd hstructural hfault
    · rw [hlines, hblocks, readBlocks_of_rejected hacc hb, hlength]

/-- **The cards of a document have the identifiers drawn, in order.** -/
theorem map_id_of_parse {text : Text} (h : (parse text ids).result = .ok cards) :
    (parse text ids).ids = ids.skip cards.length ∧
      cards.map Card.id = (List.range cards.length).map fun i => ids.name (ids.drawn + i) := by
  obtain ⟨blocks, hlayout, hreads⟩ := parse_eq_ok_iff.1 h
  refine ⟨?_, hreads.map_id⟩
  rw [parse_eq_readBlocks hlayout, readBlocks_of_readsAs hreads, hreads.length_eq]

end Document

end BuildCards
