import BuildCards.Kind
import BuildCards.Text.Printable

/-!
# Events

What reading a document reports besides its result.  An event has a level, a message, and fields
that are written after the message in a line of the log (`Event.line`).
-/

namespace BuildCards

/-! ### Levels -/

/-- How much an event matters, the most first. -/
inductive Level
  | error
  | warn
  | info
  | debug
  | trace
  deriving DecidableEq

namespace Level

/-- All levels, the one that matters most first. -/
def all : List Level := [error, warn, info, debug, trace]

/-- The position of a level among all. -/
def rank : Level → Nat
  | error => 1
  | warn => 2
  | info => 3
  | debug => 4
  | trace => 5

/-- The name of a level. -/
def name : Level → Text
  | error => "ERROR".toList
  | warn => "WARN".toList
  | info => "INFO".toList
  | debug => "DEBUG".toList
  | trace => "TRACE".toList

end Level

/-! ### Events -/

/-- Something worth reporting. -/
inductive Event
  /-- A recipe has a header in the legacy form. -/
  | legacyAdd (kind : RecipeKind) (line : Text)
  /-- A line held the former name of the bootstrap script. -/
  | migratedScript (line : Text)
  /-- A recipe begins with the bootstrap script. -/
  | foundBootstrap (kind : RecipeKind)
  /-- A block of a document is about to be read. -/
  | parsingBlock (kind : Kind) (start stop : Nat)
  /-- All cards have been read. -/
  | parsedItems (count : Nat)
  deriving DecidableEq

namespace Event

/-- The level of an event. -/
def level : Event → Level
  | legacyAdd _ _ => .warn
  | _ => .debug

/-- The message of an event. -/
def message : Event → Text
  | legacyAdd _ _ => "legacy ADD syntax, rendering as array syntax".toList
  | migratedScript _ => "migrated legacy bootstrap script name".toList
  | foundBootstrap _ => "found find-and-replace bootstrap block".toList
  | parsingBlock _ _ _ => "parsing block".toList
  | parsedItems _ => "parsed items".toList

/-- The part of the program that reports an event, by which a filter of the log can tell events
apart. -/
def origin : Event → Text
  | legacyAdd _ _ => "cardinfo_core::item".toList
  | migratedScript _ => "cardinfo_core::item".toList
  | foundBootstrap _ => "cardinfo_core::item".toList
  | parsingBlock _ _ _ => "cardinfo_core::parser".toList
  | parsedItems _ => "cardinfo".toList

/-- The names of the fields of an event, with their values as they are logged. -/
def fields : Event → List (Text × Text)
  | legacyAdd kind line =>
    [("kind".toList, (kind : Kind).label), ("line".toList, Text.quoted line)]
  | migratedScript line => [("line".toList, Text.quoted line)]
  | foundBootstrap kind => [("kind".toList, (kind : Kind).label)]
  | parsingBlock kind start stop =>
    [("kind".toList, kind.label), ("start".toList, Text.decimal start),
      ("end".toList, Text.decimal stop)]
  | parsedItems count => [("count".toList, Text.decimal count)]

/-- The names of the fields of an event.  The message is a field too. -/
def fieldNames (e : Event) : List Text := "message".toList :: e.fields.map Prod.fst

/-- The line of the log for an event. -/
def line (e : Event) : Text :=
  e.level.name ++ ' ' :: e.message ++
    e.fields.flatMap fun (name, value) => ' ' :: name ++ '=' :: value

end Event

end BuildCards
