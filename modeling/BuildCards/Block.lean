import BuildCards.Kind
import BuildCards.Text.Line
import BuildCards.Text.Search

/-!
# Blocks

In a document the text of a card stands in a *block*, between a start marker with the label of its
kind and an end marker.  A marker has a line for itself, on which blanks may surround it;
`Marker.ofLine` classifies the lines.
-/

namespace BuildCards

namespace Block

/-- What begins the line before the text of a card; a label follows. -/
def startMarker : Text := "#Start:".toList

/-- The line after the text of a card. -/
def endMarker : Text := "#End".toList

/-- The text of a card in a block. -/
def wrap (kind : Kind) (content : Text) : Text :=
  startMarker ++ ' ' :: kind.label ++ '\n' :: content ++ '\n' :: endMarker

end Block

/-- A block of a document. -/
structure Block where
  /-- The kind that the start marker names. -/
  kind : Kind
  /-- The number of the line with the start marker. -/
  start : Nat
  /-- The lines between the markers. -/
  body : List Text
  /-- The number of the line with the end marker. -/
  stop : Nat
  deriving DecidableEq

/-- The text between the markers; a block with nothing but blanks has none. -/
def Block.source (b : Block) : Option Text :=
  let text := Text.joinLines b.body
  if Text.IsBlank text then none else some text

/-- What a line is to the block structure. -/
inductive Marker
  | start (label : Text)
  | stop
  | blank
  | other
  deriving DecidableEq

/-- What a line is, by what it holds between its blanks. -/
def Marker.ofLine (line : Text) : Marker :=
  let t := Text.trim line
  match Text.afterStart? Block.startMarker t with
  | some label => start label
  | none => if t = Block.endMarker then stop else if t.isEmpty then blank else other

end BuildCards
