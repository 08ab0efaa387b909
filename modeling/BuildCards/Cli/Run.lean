import BuildCards.Card
import BuildCards.Cli.Arguments
import BuildCards.Cli.Help
import BuildCards.Document
import BuildCards.LogFilter.Reader

/-!
# Running the command line

`Invocation.run` gives everything that a call of the program shows: the exit code and what is
written to standard output and to standard error.  What a run takes from outside is an
`Environment`, so a run is a function.
-/

namespace BuildCards

namespace Cli

/-- What a run takes from outside. -/
structure Environment where
  /-- The bytes of a file, or of standard input if none is named, or why there are none. -/
  read : Option Text → Except Text ByteArray
  /-- The filter of the log that is asked for from outside. -/
  logSetting : Option Text
  /-- The identifiers of the cards. -/
  ids : IdSupply

/-- What a run shows. -/
structure Outcome where
  /-- How the run ends. -/
  exitCode : ExitCode
  /-- What is written to standard output. -/
  stdout : Text
  /-- What is written to standard error. -/
  stderr : Text
  deriving DecidableEq

/-- A text on a line of its own. -/
def printedLine (t : Text) : Text := t ++ ['\n']

/-! ### The log -/

/-- The filter of the log.  What is asked for from outside goes first, if it can be read. -/
def logFilter (o : Options) (setting : Option Text) : LogFilter :=
  match setting.bind LogFilter.parse? with
  | some filter => filter
  | none => LogFilter.upTo (if o.verbose then .debug else .warn)

/-- The lines of the log for the events that are shown. -/
def logText (filter : LogFilter) (events : List Event) : Text :=
  (events.filter filter.shows).flatMap fun e => printedLine e.line

/-! ### Reading the input -/

/-- The text in UTF-8. -/
def decode (bytes : ByteArray) : Except Fault Text :=
  match String.fromUTF8? bytes with
  | some s => .ok s.toList
  | none => .error (.io "stream did not contain valid UTF-8".toList)

/-- The text that a run reads. -/
def input (o : Options) (env : Environment) : Except Fault Text :=
  match env.read o.file with
  | .error reason => .error (.io reason)
  | .ok bytes => decode bytes

/-- The cards in a text: one card of the kind that was asked for, or those of a document. -/
def readText (kind : Option Kind) (text : Text) (ids : IdSupply) : Reading (List Card) :=
  match kind with
  | none => Document.parse text ids
  | some kind =>
    let source := if Text.IsBlank text then none else some text
    let reading := Card.read kind source ids
    { reading with result := reading.result.map ([·]) }

/-- The cards that a run reads. -/
def readCards (o : Options) (env : Environment) : Reading (List Card) :=
  match input o env with
  | .error fault => ⟨[], env.ids, .error fault⟩
  | .ok text => readText o.kind text env.ids

/-! ### Writing the output -/

/-- The cards as they are written to standard output. -/
def output (json : Bool) (cards : List Card) : Text :=
  if json then printedLine (Card.listToJson cards).pretty
  else
    let text := Document.render cards
    if text.isEmpty then [] else printedLine text

/-- What a run with these options shows. -/
def process (o : Options) (env : Environment) : Outcome :=
  if o.stdin && o.file.isSome then
    ⟨.usage, [], printedLine "--stdin is mutually exclusive with --file".toList⟩
  else
    let reading := readCards o env
    let filter := logFilter o env.logSetting
    match reading.result with
    | .error fault =>
      ⟨fault.exitCode, [], logText filter reading.events ++ printedLine fault.message⟩
    | .ok cards =>
      ⟨.success, output o.json cards,
        logText filter (reading.events ++ [.parsedItems cards.length])⟩

/-- What a call of the program shows. -/
def Invocation.run (env : Environment) : Invocation → Outcome
  | process o => Cli.process o env
  | help topic => ⟨.success, topic.text, []⟩
  | completion shell => ⟨.success, shell.script, []⟩
  | misuse m => ⟨.usage, [], printedLine m.message⟩

end Cli

end BuildCards
