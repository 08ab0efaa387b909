import BuildCards.Fault
import BuildCards.Instruction
import BuildCards.Text.Search

/-!
# Commands

A command is one line of a build step: an instruction, its body, and a flag that lets the result be
cached.  `Command.parse` reads a line and `Command.text` writes it.  The flag stands at the end of
the line as a marker, which is read in two spellings and written in one.

An empty line reads as `Command.blank`, and a command with nothing to say writes as an empty line.
`Command.clone` gives a command in the form that its own text reads as.
-/

namespace BuildCards

/-- One line of a build step. -/
structure Command where
  /-- The instruction; only a blank command has none. -/
  instruction : Option Instruction
  /-- What follows the instruction. -/
  body : Text
  /-- The result of the command may be cached. -/
  cache : Bool
  deriving DecidableEq

namespace Command

/-! ### Markers -/

/-- The marker at the end of a command that may be cached. -/
def cacheMarker : Text := "#runnable-cache".toList

/-- The spelling of the marker that is read but not written. -/
def legacyCacheMarker : Text := "# runnable-cache".toList

/-- What stands before a marker at the end of a text, if one is there. -/
def beforeMarker? (t : Text) : Option Text :=
  (Text.beforeEnd? legacyCacheMarker t).or (Text.beforeEnd? cacheMarker t)

/-! ### Reading a line -/

/-- The command of an empty line. -/
def blank : Command := ⟨none, [], false⟩

/-- The command with this instruction whose body, and perhaps a marker, are in `rest`. -/
def ofInstruction (i : Instruction) (rest : Text) : Command :=
  match beforeMarker? (Text.trimEnd rest) with
  | some body => ⟨some i, Text.trim body, true⟩
  | none => ⟨some i, Text.trim rest, false⟩

/-- The command in a line.  The first word has to be a keyword; a fault quotes the whole line. -/
def parse (line : Text) : Except Fault Command :=
  match Text.trim line with
  | [] => .ok blank
  | c :: t =>
    match Instruction.ofKeyword? ((c :: t).takeWhile (!Text.isBlank ·)) with
    | some i => .ok (ofInstruction i (Text.trimStart ((c :: t).dropWhile (!Text.isBlank ·))))
    | none => .error (.instruction line)

/-! ### Writing a line -/

variable (c : Command)

/-- The command has nothing to say. -/
def isBlank : Bool := c.instruction.isNone || decide (Text.IsBlank c.body)

/-- The line of a command. -/
def text : Text :=
  match c.instruction with
  | none => []
  | some i =>
    if Text.IsBlank c.body then []
    else i.keyword ++ ' ' :: (Text.trim c.body ++ if c.cache then ' ' :: cacheMarker else [])

/-- A copy of a command is the command that its line reads as. -/
def clone : Command :=
  match parse c.text with
  | .ok copy => copy
  | .error _ => c

end Command

end BuildCards
