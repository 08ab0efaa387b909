import BuildCards.LogFilter
import BuildCards.Pattern
import BuildCards.Text.Bytes

/-!
# Reading filters of the log

`LogFilter.parse?` reads a filter, directives with commas between them.  A directive is a level, or
the beginning of an origin, or both with an equals sign between them, and brackets before the
equals sign may hold the name of a span and a field, which may have a value, a number or a pattern:

    level
    origin[span{field=value}]=level

A directive without a level lets all levels through.  The parts of a directive are found in the text
without the blanks around it and are cut out of the text with them, at the same places, which are
counted in bytes; so a directive with blanks before it does not mean what it would mean without
them.
-/

namespace BuildCards

/-! ### Levels -/

namespace Level

/-- The level that a number stands for; zero stands for none. -/
def ofNumber? (digits : Text) : Option (Option Level) :=
  let value := digits.foldl (fun n c => n * 10 + (c.toNat - '0'.toNat)) 0
  if digits.isEmpty || !digits.all Char.isDigit then none
  else if value = 0 then some none
  else (all.find? fun l => l.rank == value).map some

/-- The level with this name in any case of its letters; `off` stands for none. -/
def ofName? (word : Text) : Option (Option Level) :=
  if word.map Char.toUpper = "OFF".toList then some none
  else (all.find? fun l => l.name == word.map Char.toUpper).map some

/-- The limit that a word stands for: a number, perhaps with a plus sign, or a name.  No word stands
for errors. -/
def ofWord? (word : Text) : Option (Option Level) :=
  match word with
  | [] => some (some error)
  | '+' :: digits => ofNumber? digits
  | word => (ofNumber? word).or (ofName? word)

end Level

/-! ### Values of fields -/

namespace LogFilter

/-- The text without a sign at its start. -/
def unsigned (t : Text) : Text :=
  match t with
  | '+' :: t | '-' :: t => t
  | t => t

/-- The text holds digits only, at least one. -/
def isDigits (t : Text) : Bool := !t.isEmpty && t.all Char.isDigit

/-- The text is the exponent of a number, or there is none. -/
def isExponent (t : Text) : Bool :=
  match t with
  | [] => true
  | e :: t => e.toLower == 'e' && isDigits (unsigned t)

/-- The text is a decimal number without a sign: digits, perhaps with a point among or beside them,
and perhaps an exponent. -/
def isDecimal (t : Text) : Bool :=
  let whole := t.takeWhile Char.isDigit
  match t.drop whole.length with
  | '.' :: t =>
    let part := t.takeWhile Char.isDigit
    isDigits (whole ++ part) && isExponent (t.drop part.length)
  | t => isDigits whole && isExponent t

/-- The words for what is no decimal number and yet counts as a number. -/
def numberWords : List Text := ["inf", "infinity", "nan"].map String.toList

/-- The text is a number. -/
def isNumber (t : Text) : Bool :=
  let t := unsigned t
  isDecimal t || numberWords.contains (t.map Char.toLower)

/-- The text can be the value of a field. -/
def isValue (t : Text) : Bool := isNumber t || Pattern.isWellFormed t

end LogFilter

/-! ### Directives -/

namespace Directive

/-- The character may begin a directive. -/
def isOpening (c : Char) : Bool :=
  c == '[' || c == '-' || c == ':' || c == '_' || Text.isAlphanumeric c

/-- The limit after an equals sign. -/
def limitAfter? (t : Text) : Option (Option Level) :=
  if t.isEmpty then some (some .trace) else Level.ofWord? t

/-- The directive whose parts before the level are in `d`.  Its shape goes on with `rest` at place
`n`. -/
def withLimit? (full : Text) (n : Nat) (rest : Text) (d : Directive) : Option Directive :=
  match rest with
  | [] => some d
  | '=' :: _ => do
    let limit ← limitAfter? (← Text.dropBytes? (n + 1) full)
    return { d with limit := limit }
  | _ => none

/-- The value of the field, if it has one, can be read.  It ends where a second equals sign
stands. -/
def hasGoodValue (field : Text) : Bool :=
  match field.splitOn '=' with
  | _ :: value :: _ => LogFilter.isValue value
  | _ => true

/-- The directive whose shape goes on with `rest` after a bracket, at place `n`. -/
def afterBracket? (full : Text) (n : Nat) (rest : Text) (origin : Option Text) :
    Option Directive := do
  let shape := rest.takeWhile fun c => c != ']' && c != '{'
  let span ← Text.sliceBytes? full n (Text.byteSize shape)
  let n := n + Text.byteSize shape + 1
  match rest.drop shape.length with
  | ']' :: rest => withLimit? full n rest ⟨origin, none, some .trace, true⟩
  | '{' :: rest =>
    let shape := rest.takeWhile (· != '}')
    let field ← Text.sliceBytes? full n (Text.byteSize shape)
    match rest.drop shape.length with
    | '}' :: ']' :: rest =>
      if field.isEmpty || !hasGoodValue field then none
      else
        withLimit? full (n + Text.byteSize shape + 2) rest
          ⟨origin, some field, some .trace, !span.isEmpty || field.contains '='⟩
    | _ => none
  | _ => none

/-- The directive in a text: its parts are found in `shape` and cut out of `full`. -/
def ofShape? (shape full : Text) : Option Directive :=
  let part := shape.takeWhile fun c => c != '=' && c != '['
  let n := Text.byteSize part
  match shape.drop part.length with
  | '[' :: rest => do
    let origin ← Text.takeBytes? n full
    afterBracket? full (n + 1) rest (if origin.isEmpty then none else some origin)
  | '=' :: rest => do
    let origin ← Text.takeBytes? n full
    withLimit? full n ('=' :: rest) ⟨some origin, none, some .trace, false⟩
  | _ =>
    match Level.ofWord? full with
    | some limit => some { limit := limit }
    | none => some ⟨some full, none, some .trace, false⟩

/-- The directive in a text. -/
def parse? (text : Text) : Option Directive :=
  match Text.trim text with
  | [] => none
  | c :: t => if isOpening c then ofShape? (c :: t) text else none

end Directive

/-! ### Filters -/

/-- The filter in a text.  One without directives shows errors. -/
def LogFilter.parse? (text : Text) : Option LogFilter :=
  let pieces := (text.splitOn ',').filter (!·.isEmpty)
  if pieces.isEmpty then some (upTo .error) else pieces.mapM Directive.parse?

end BuildCards
