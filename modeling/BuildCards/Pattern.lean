import BuildCards.Json.Basic
import BuildCards.Pattern.Nesting
import BuildCards.Text.Alphanumeric

/-!
# Patterns

The value of a field in a directive is a pattern for texts:

    alternatives   a|b|c
    repetitions    a?  a*  a+           each with a question mark after it as well
    groups         (a)  (?<name>a)  (?P<name>a)  (?switches:a)  (?switches)
    characters     a  .  \n  \x41  \u0041  \U00000041  and a backslash before a sign
    sets           [a-z]  [^a-z]  [a-z&&[^x]]  [[:alpha:]]  \d  \s  \w  \pL  and \D \S \W \PL
    positions      ^  $  \A  \z  \b  \B  \<  \>

No pattern is ever held against a text here, as only spans have fields with values and this program
has none, but a directive with a pattern that is not well formed is refused.  A directive ends at
its first closing brace, so the forms with braces cannot be written.

A pattern describes texts and not bytes: where it speaks about bytes it may not name one beyond
ASCII, nor a complement.  And it is prepared to be run without looking back, for which the edges of
a word must be told by bytes.

A pattern is read one character after the other (`Reader.step`), with the characters that follow in
sight.  A `Reader` knows what is expected next (its `Phase`), the groups and sets that are open, and
what the switches say.  A character that cannot stand where it is found ends the reading.

What is read inside a set and outside is different, but an escape looks the same in both; so an
escape remembers its `Place` and hands what it stands for, a `Symbol`, back to it (`Reader.give`).
-/

namespace BuildCards

namespace Pattern

/-- Where a symbol stands. -/
inductive Place where
  /-- Outside of all sets. -/
  | sequence
  /-- In a set. -/
  | member
  /-- At the end of a range of characters that begins with this one. -/
  | rangeEnd (first : Char)
  deriving DecidableEq

/-- What a character or an escape stands for. -/
inductive Symbol where
  /-- A character. -/
  | char (c : Char)
  /-- A set of characters. -/
  | set
  /-- A position in the text. -/
  | position
  deriving DecidableEq

/-- What is expected next. -/
inductive Phase where
  /-- A part of a sequence. -/
  | part
  /-- The same, or a question mark that belongs to the repetition sign just read. -/
  | repeated
  /-- What follows a backslash. -/
  | escape (place : Place)
  /-- So many more digits of the code of a character; the flag tells a code of one byte. -/
  | code (place : Place) (byte : Bool) (missing value : Nat)
  /-- The letter of a category of characters. -/
  | category (place : Place)
  /-- What follows an opening parenthesis. -/
  | group
  /-- What follows a parenthesis and a question mark. -/
  | special
  /-- More of the name of a group. -/
  | name (read : Text)
  /-- More switches. -/
  | switches (read : Text)
  /-- The first member of a set; the flag tells that nothing was read since the bracket. -/
  | setStart (first : Bool)
  /-- A member of a set. -/
  | member
  /-- What follows a member of a set: it is this character, or a set of its own. -/
  | afterMember (c : Option Char)
  /-- The end of a range. -/
  | rangeEnd (first : Char)
  deriving DecidableEq

/-- Blanks and comments may stand here. -/
def Phase.allowsBlanks : Phase → Bool
  | escape _ | special | name _ | switches _ => false
  | _ => true

/-- What is known of the part of a pattern that has been read. -/
structure Reader where
  /-- What is expected next. -/
  phase : Phase := .part
  /-- What the switches say. -/
  mode : Mode := {}
  /-- A comment is being read. -/
  inComment : Bool := false
  /-- So many of the next characters have been looked at already. -/
  seen : Nat := 0
  /-- The innermost open group. -/
  here : Group := {}
  /-- The groups around it, from the inside out. -/
  around : List Group := []
  /-- The open sets, from the inside out. -/
  sets : List OpenSet := []
  /-- The names of groups that are taken. -/
  names : List Text := []
  deriving DecidableEq

namespace Reader

variable (r : Reader)

/-- Goes on with another phase. -/
def goto (phase : Phase) : Option Reader := some { r with phase := phase }

/-! ### Parts and groups -/

/-- One part more. -/
def add (item : Item) : Reader := { r with phase := .part, here := r.here.add item }

/-- Opens a group with this mode inside. -/
def openGroup (mode : Mode) : Reader :=
  { r with phase := .part, mode, here := { outer := r.mode }, around := r.here :: r.around }

/-- Closes the innermost group. -/
def closeGroup : Option Reader :=
  match r.around with
  | [] => none
  | g :: around =>
    some { r with
      phase := .part
      mode := r.here.outer
      here := g.add (.part (1 + r.here.depth))
      around }

/-- Repeats the last part. -/
def repeatLast : Option Reader :=
  r.here.repeatLast?.map fun g => { r with phase := .repeated, here := g }

/-- Reads a part of a sequence.  No brace is ever closed, so an opening one that would count
repetitions has no place. -/
def readPart (c : Char) : Option Reader :=
  if c = '(' then r.goto .group
  else if c = ')' then r.closeGroup
  else if c = '|' then some { r with phase := .part, here := r.here.branch }
  else if c = '[' then some { r with phase := .setStart true, sets := [{}] }
  else if c = '\\' then r.goto (.escape .sequence)
  else if c = '{' then none
  else if c = '?' ∨ c = '*' ∨ c = '+' then r.repeatLast
  else if c = '.' ∧ ¬r.mode.wide then none
  else some (r.add (.part 0))

/-! ### What follows a parenthesis -/

/-- Reads a switch or the end of the switches.  Each may stand once, and the dash not at the end. -/
def readSwitch (read : Text) (c : Char) : Option Reader :=
  let mode := r.mode.switch read
  if c = ')' ∨ c = ':' then
    if read.getLast? = some '-' then none
    else if c = ':' then some (r.openGroup mode)
    else if read.isEmpty then none
    else some { r.add .switches with mode }
  else if ('-' :: Mode.letters).contains c ∧ ¬read.contains c then r.goto (.switches (read ++ [c]))
  else none

/-- The character may stand in the name of a group. -/
def isNameChar (first : Bool) (c : Char) : Bool :=
  if first then c == '_' || Text.isLetter c
  else c == '_' || c == '.' || c == '[' || c == ']' || Text.isAlphanumeric c

/-- Reads the name of a group, which no other group has. -/
def readName (read : Text) (c : Char) : Option Reader :=
  if c = '>' then
    if read.isEmpty ∨ r.names.contains read then none
    else some { r.openGroup r.mode with names := read :: r.names }
  else if isNameChar read.isEmpty c then r.goto (.name (read ++ [c]))
  else none

/-- Reads what follows a parenthesis and a question mark: a name between angle brackets, perhaps
after a `P`, or switches. -/
def readSpecial (c : Char) (rest : Text) : Option Reader :=
  if c = '<' then r.goto (.name [])
  else if c = 'P' ∧ rest.head? = some '<' then some { r with phase := .name [], seen := 1 }
  else r.readSwitch [] c

/-- Reads what follows a parenthesis. -/
def readGroup (c : Char) : Option Reader :=
  if c = '?' then r.goto .special else (r.openGroup r.mode).readPart c

/-! ### Sets -/

/-- One member of the innermost set more. -/
def addMember (depth : Nat) : Reader :=
  match r.sets with
  | [] => r
  | s :: sets => { r with phase := .member, sets := s.add depth :: sets }

/-- Closes the innermost set, which is a member of the set around it or a part of a sequence. -/
def closeSet : Option Reader :=
  match r.sets with
  | [] => none
  | [s] => some { r.add (.part (1 + s.depth)) with sets := [] }
  | s :: sets => some ({ r with sets }.addMember (1 + s.depth))

/-- The names of sets that are written between colons. -/
def setNames : List Text :=
  ["alnum", "alpha", "ascii", "blank", "cntrl", "digit", "graph", "lower", "print", "punct",
    "space", "upper", "word", "xdigit"].map String.toList

/-- The rest after a bracket begins with the name of a set between colons: so many characters. -/
def namedSet? (rest : Text) : Option Nat :=
  match rest with
  | ':' :: rest =>
    let name := rest.takeWhile (· != ':')
    if setNames.contains name && [':', ']'].isPrefixOf (rest.drop name.length) then
      some (name.length + 3)
    else none
  | _ => none

/-- Reads an opening bracket in a set: a set with a name, or its complement, or a set of its own.
The complement of a set of bytes has bytes beyond ASCII, so it has no place in a pattern. -/
def readInnerSet (rest : Text) : Option Reader :=
  let complement := [':', '^'].isPrefixOf rest
  match namedSet? (if complement then ':' :: rest.drop 2 else rest) with
  | some length =>
    if !complement then some { r.addMember 0 with seen := length }
    else if r.mode.wide then some { r.addMember 0 with seen := length + 1 }
    else none
  | none => some { r with phase := .setStart true, sets := {} :: r.sets }

/-- Combines what was read of the innermost set with what follows. -/
def combine : Option Reader :=
  match r.sets with
  | [] => none
  | s :: sets => some { r with phase := .member, sets := s.combine :: sets, seen := 1 }

/-- Gives a symbol to its place. -/
def give : Place → Symbol → Option Reader
  | .sequence, _ => some (r.add (.part 0))
  | .member, .char c => if r.mode.admits c then r.goto (.afterMember (some c)) else none
  | .member, .set => r.goto (.afterMember none)
  | .rangeEnd first, .char c =>
    if r.mode.admits c ∧ first.toNat ≤ c.toNat then some (r.addMember 0) else none
  | _, _ => none

/-- Reads a member of a set. -/
def readMember (c : Char) (rest : Text) : Option Reader :=
  if c = '[' then r.readInnerSet rest
  else if c = ']' then r.closeSet
  else if (c = '&' ∨ c = '-' ∨ c = '~') ∧ rest.head? = some c then r.combine
  else if c = '\\' then r.goto (.escape .member)
  else r.give .member (.char c)

/-- Reads the first member of a set, or the sign of a complement before it.  Dashes stand for
themselves there, and so does a closing bracket. -/
def readFirstMember (first : Bool) (c : Char) (rest : Text) : Option Reader :=
  if first ∧ c = '^' then if r.mode.wide then r.goto (.setStart false) else none
  else if c = '-' then (r.addMember 0).goto (.setStart false)
  else if c = ']' ∧ r.sets.head? = some {} then some (r.addMember 0)
  else r.readMember c rest

/-- What follows in the rest after the blanks.  Of a comment its first character is taken. -/
def ahead (rest : Text) : Option Char :=
  if r.mode.spaced then
    match rest.dropWhile Text.isBlank with
    | '#' :: comment => (comment.dropWhile Text.isBlank).head?
    | rest => rest.head?
  else rest.head?

/-- Reads what follows a member of a set: a dash and the end of a range, or another member. -/
def readAfterMember (member : Option Char) (c : Char) (rest : Text) : Option Reader :=
  if c = '-' ∧ r.ahead rest ≠ some ']' ∧ r.ahead rest ≠ some '-' then
    member.bind fun first => r.goto (.rangeEnd first)
  else (r.addMember 0).readMember c rest

/-- Reads the end of a range. -/
def readRangeEnd (first : Char) (c : Char) : Option Reader :=
  if c = '\\' then r.goto (.escape (.rangeEnd first)) else r.give (.rangeEnd first) (.char c)

/-! ### Escapes -/

/-- The control characters that have a letter. -/
def controls : List (Char × Char) :=
  [('a', '\x07'), ('f', '\x0c'), ('t', '\t'), ('n', '\n'), ('r', '\x0d'), ('v', '\x0b')]

/-- The numbers of digits in the code of a character, by the letter before it. -/
def codeLengths : List (Char × Nat) := [('x', 2), ('u', 4), ('U', 8)]

/-- Reads what follows a backslash.  A category or a complement has no place in a pattern about
bytes, and no edge of a word in one about characters. -/
def readEscape (place : Place) (c : Char) : Option Reader :=
  match codeLengths.lookup c, controls.lookup c with
  | some digits, _ => r.goto (.code place (c == 'x') digits 0)
  | _, some control => r.give place (.char control)
  | none, none =>
    if c = 'p' ∨ c = 'P' then if r.mode.wide then r.goto (.category place) else none
    else if ['d', 's', 'w'].contains c then r.give place .set
    else if ['D', 'S', 'W'].contains c then if r.mode.wide then r.give place .set else none
    else if ['A', 'z'].contains c then r.give place .position
    else if ['b', 'B', '<', '>'].contains c then
      if r.mode.wide then none else r.give place .position
    else if c.toNat < 128 ∧ ¬c.isAlphanum then r.give place (.char c)
    else none

/-- Reads a digit of the code of a character. -/
def readCode (place : Place) (byte : Bool) (missing value : Nat) (c : Char) : Option Reader :=
  match Json.hexDigit? c with
  | none => none
  | some digit =>
    let value := value * 16 + digit
    if 1 < missing then r.goto (.code place byte (missing - 1) value)
    else if ¬value.isValidChar ∨ (byte ∧ ¬r.mode.wide ∧ 128 ≤ value) then none
    else r.give place (.char (Char.ofNat value))

/-- The letters of the categories of characters. -/
def categories : Text := ['C', 'L', 'M', 'N', 'P', 'S', 'Z']

/-- Reads the letter of a category. -/
def readCategory (place : Place) (c : Char) : Option Reader :=
  if categories.contains c.toUpper then r.give place .set else none

/-! ### A step -/

/-- Reads a character that counts. -/
def read (c : Char) (rest : Text) : Option Reader :=
  match r.phase with
  | .part | .repeated => r.readPart c
  | .escape place => r.readEscape place c
  | .code place byte missing value => r.readCode place byte missing value c
  | .category place => r.readCategory place c
  | .group => r.readGroup c
  | .special => r.readSpecial c rest
  | .name name => r.readName name c
  | .switches word => r.readSwitch word c
  | .setStart first => r.readFirstMember first c rest
  | .member => r.readMember c rest
  | .afterMember member => r.readAfterMember member c rest
  | .rangeEnd first => r.readRangeEnd first c

/-- Forgets that a repetition sign was just read. -/
def settle : Reader := if r.phase = .repeated then { r with phase := .part } else r

/-- Reads a character, with the rest in sight. -/
def step (c : Char) (rest : Text) : Option Reader :=
  if 0 < r.seen then some { r with seen := r.seen - 1 }
  else if r.inComment then some { r with inComment := c != '\n' }
  else if r.phase = .repeated ∧ c = '?' then r.goto .part
  else if r.mode.spaced ∧ r.phase.allowsBlanks ∧ Text.isBlank c then some r.settle
  else if r.mode.spaced ∧ r.phase.allowsBlanks ∧ c = '#' then
    some { r.settle with inComment := true }
  else r.read c rest

/-- Reads a text to its end. -/
def run (r : Reader) : Text → Option Reader
  | [] => some r
  | c :: rest => (r.step c rest).bind fun r => run r rest

end Reader

/-! ### Patterns -/

/-- A pattern may be nested this deeply. -/
def maxDepth : Nat := 250

/-- The reader may stop here: a part is complete, and nothing is left open. -/
def Reader.isDone (r : Reader) : Bool :=
  (r.phase = .part ∨ r.phase = .repeated) && r.around.isEmpty && r.here.depth ≤ maxDepth

/-- The text is a pattern. -/
def isWellFormed (t : Text) : Bool := (Reader.run {} t).any Reader.isDone

example : isWellFormed "a|b*?[^a-z&&[:alpha:]]".toList = true := by decide

example : isWellFormed "a|*".toList = false := by decide

example : isWellFormed "(?-u:\\b)".toList = true ∧ isWellFormed "\\b".toList = false := by decide

end Pattern

end BuildCards
