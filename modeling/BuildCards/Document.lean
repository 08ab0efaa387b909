import BuildCards.Card

/-!
# Documents

A document is a text with a block for each card and blank lines around the blocks.  It is read in
two steps: its lines are cut into blocks (`Outline.ofLines`), and each block is read as a card
(`Document.readBlocks`).  The outline ends at the first fault of the block structure; a fault inside
an earlier block still comes first.

`Document.render` writes the blocks of cards, one after the other.
-/

namespace BuildCards

/-! ### The block structure -/

/-- The start of a block whose end has not been reached: its kind, the number of its line, and the
lines since then in reverse. -/
structure Opening where
  /-- The kind that the start marker names. -/
  kind : Kind
  /-- The number of the line with the start marker. -/
  start : Nat
  /-- The lines after the start marker, the last first. -/
  lines : List Text

/-- The blocks of a document up to the first fault of its structure. -/
structure Outline where
  /-- The blocks, in order. -/
  blocks : List Block
  /-- The fault that ends the outline. -/
  fault : Option Fault

namespace Outline

/-- The outline with one more block before the others. -/
def cons (block : Block) (rest : Outline) : Outline := ⟨block :: rest.blocks, rest.fault⟩

/-- The outline of the lines from number `n` on, with the block that is open there. -/
def ofLinesFrom (opening : Option Opening) (n : Nat) : List Text → Outline
  | [] => ⟨[], opening.map fun o => .document o.start .missingEnd⟩
  | line :: rest =>
    match opening, Marker.ofLine line with
    | none, .start label =>
      match Kind.ofLabel label with
      | .ok kind => ofLinesFrom (some ⟨kind, n, []⟩) (n + 1) rest
      | .error fault => ⟨[], some fault⟩
    | none, .stop => ⟨[], some (.document n .strayEnd)⟩
    | none, .blank => ofLinesFrom none (n + 1) rest
    | none, .other => ⟨[], some (.document n .strayText)⟩
    | some o, .start _ => ⟨[], some (.document n (.unclosed o.start))⟩
    | some o, .stop =>
      cons ⟨o.kind, o.start, o.lines.reverse, n⟩ (ofLinesFrom none (n + 1) rest)
    | some o, _ => ofLinesFrom (some { o with lines := line :: o.lines }) (n + 1) rest

/-- The outline of the lines of a document. -/
def ofLines (lines : List Text) : Outline := ofLinesFrom none 1 lines

end Outline

namespace Document

/-! ### Reading -/

/-- Reads the card of a block. -/
def readBlock (block : Block) (ids : IdSupply) : Reading Card :=
  let reading := Card.read block.kind block.source ids
  { reading with events := .parsingBlock block.kind block.start block.stop :: reading.events }

/-- Reads the cards of blocks, up to the first that holds none. -/
def readBlocks (ids : IdSupply) : List Block → Reading (List Card)
  | [] => ⟨[], ids, .ok []⟩
  | block :: rest =>
    let first := readBlock block ids
    match first.result with
    | .error fault => ⟨first.events, first.ids, .error fault⟩
    | .ok card =>
      let later := readBlocks first.ids rest
      ⟨first.events ++ later.events, later.ids, later.result.map (card :: ·)⟩

/-- Reads the cards of a document. -/
def parse (text : Text) (ids : IdSupply) : Reading (List Card) :=
  let outline := Outline.ofLines (Text.lines text)
  let reading := readBlocks ids outline.blocks
  match outline.fault with
  | none => reading
  | some fault => { reading with result := reading.result.bind fun _ => .error fault }

/-! ### Writing -/

/-- The document with the blocks of the cards; those without a block are left out. -/
def render (cards : List Card) : Text :=
  Text.joinLines ((cards.map Card.render).filter (!·.isEmpty))

end Document

end BuildCards
