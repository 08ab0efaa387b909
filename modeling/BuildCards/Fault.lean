import BuildCards.Text.Basic

/-!
# Faults

What can be wrong with a text that is read, and how each fault is worded.  A `Fault` keeps the text
or the line number it is about; `Fault.message` is the only place where it is put into words, and
`Fault.exitCode` says how the command line ends on it.
-/

namespace BuildCards

/-! ### Exit codes -/

/-- How the command line ends. -/
inductive ExitCode
  | success
  | instruction
  | add
  | document
  | io
  | usage
  deriving DecidableEq

namespace ExitCode

/-- All exit codes, by increasing number. -/
def all : List ExitCode := [success, instruction, add, document, io, usage]

/-- The number given to the system. -/
def toNat : ExitCode → Nat
  | success => 0
  | instruction => 2
  | add => 3
  | document => 4
  | io => 6
  | usage => 64

end ExitCode

/-! ### Flaws in the block structure -/

/-- What is wrong with the blocks of a document. -/
inductive Flaw
  /-- A block begins inside the block that line `start` opened. -/
  | unclosed (start : Nat)
  /-- An end marker has no block to end. -/
  | strayEnd
  /-- Text stands outside of every block. -/
  | strayText
  /-- The document ends inside a block. -/
  | missingEnd
  /-- Any other flaw, in its own words. -/
  | described (words : Text)
  deriving DecidableEq

/-- The flaw in words. -/
def Flaw.message : Flaw → Text
  | .unclosed start =>
    "block opened at line ".toList ++ Text.decimal start ++ " is not closed".toList
  | .strayEnd => "#End without #Start".toList
  | .strayText => "text outside of a #Start/#End block".toList
  | .missingEnd => "block is missing its #End marker".toList
  | .described words => words

/-! ### Faults -/

/-- Why a text was not accepted. -/
inductive Fault
  /-- The line begins with no known instruction. -/
  | instruction (line : Text)
  /-- The line is no `ADD` header. -/
  | addLine (line : Text)
  /-- No kind of card has this label. -/
  | unknownKind (label : Text)
  /-- The block structure breaks at this line. -/
  | document (line : Nat) (flaw : Flaw)
  /-- The text could not be fetched. -/
  | io (reason : Text)
  deriving DecidableEq

namespace Fault

/-- The fault in words. -/
def message : Fault → Text
  | instruction line => "no recognized instruction in line: ".toList ++ line
  | addLine line => "malformed ADD line: ".toList ++ line
  | unknownKind label => "unknown item type: ".toList ++ label
  | document line flaw =>
    "malformed document at line ".toList ++ Text.decimal line ++ ": ".toList ++ flaw.message
  | io reason => "io error: ".toList ++ reason

/-- The exit code of the command line for the fault. -/
def exitCode : Fault → ExitCode
  | instruction _ => .instruction
  | addLine _ => .add
  | unknownKind _ => .document
  | document _ _ => .document
  | io _ => .io

end Fault

end BuildCards
