import BuildCards.Json.Basic
import BuildCards.Json.Number

/-!
# Reading JSON

`Json.parse?` reads a text that is one JSON value with nothing but space around it.  The tokens are
taken one after the other; the arrays and objects that have been opened and not closed stand in a
stack of frames, each with what has been read of it.  `Json.readValue` is where a value has to
follow, and `Json.resume` goes on after one.

A JSON text is cut into tokens by a scanner that takes one character at a time.  Its state
(`Scan`) is the piece that has been begun; a step gives the tokens that the character completes and
the next state.  So scanning a text in two parts is scanning the first and then, from the state
reached, the second (`Scan.run_append`).

A quoted string is one token (`Scan.run_quote`).  A piece that is no token gives `Token.malformed`,
which no value contains.
-/

namespace BuildCards

namespace Json

/-! ### Tokens -/

/-- A piece of a JSON text: a mark, or a value without parts. -/
inductive Token
  | openArray
  | closeArray
  | openObject
  | closeObject
  | colon
  | comma
  | scalar (value : Json)
  | malformed

namespace Token

/-- The token of an unquoted word. -/
def ofWord (word : Text) : Token :=
  if word = "null".toList then scalar .null
  else if word = "true".toList then scalar (.bool true)
  else if word = "false".toList then scalar (.bool false)
  else malformed

/-- The token of a run of characters that numbers are made of. -/
def ofDigits (t : Text) : Token := if isNumber t then scalar (.number t) else malformed

/-- The token of a string with these characters between its quotes. -/
def ofQuoted (t : Text) : Token :=
  match unescape t with
  | some s => scalar (.string s)
  | none => malformed

end Token

/-! ### The scanner -/

/-- The piece that a scanner has begun, its characters in reverse. -/
inductive Scan
  | between
  | word (read : Text)
  | number (read : Text)
  | quoted (read : Text)
  | backslash (read : Text)

namespace Scan

/-- The character separates tokens. -/
def isSpace (c : Char) : Bool := c == ' ' || c == '\t' || c == '\n' || c == '\x0d'

/-- The character is found in numbers. -/
def isNumeral (c : Char) : Bool :=
  c.isDigit || c == '-' || c == '+' || c == '.' || c == 'e' || c == 'E'

/-- A character that begins a piece or is one. -/
def start (c : Char) : List Token × Scan :=
  match c with
  | '[' => ([.openArray], between)
  | ']' => ([.closeArray], between)
  | '{' => ([.openObject], between)
  | '}' => ([.closeObject], between)
  | ':' => ([.colon], between)
  | ',' => ([.comma], between)
  | '"' => ([], quoted [])
  | c =>
    if isSpace c then ([], between)
    else if c.isLower then ([], word [c])
    else if c.isDigit || c == '-' then ([], number [c])
    else ([.malformed], between)

/-- The token of the piece that the text ends in. -/
def finish : Scan → List Token
  | between => []
  | word read => [.ofWord read.reverse]
  | number read => [.ofDigits read.reverse]
  | quoted _ => [.malformed]
  | backslash _ => [.malformed]

/-- The tokens that a character completes, and the state after it. -/
def step (s : Scan) (c : Char) : List Token × Scan :=
  match s with
  | between => start c
  | word read =>
    if c.isLower then ([], word (c :: read))
    else (Token.ofWord read.reverse :: (start c).1, (start c).2)
  | number read =>
    if isNumeral c then ([], number (c :: read))
    else (Token.ofDigits read.reverse :: (start c).1, (start c).2)
  | quoted read =>
    if c = '"' then ([.ofQuoted read.reverse], between)
    else if c = '\\' then ([], backslash (c :: read))
    else ([], quoted (c :: read))
  | backslash read => ([], quoted (c :: read))

/-- The tokens that a text completes, and the state after it. -/
def run (s : Scan) : Text → List Token × Scan
  | [] => ([], s)
  | c :: t =>
    let (done, next) := step s c
    let (later, last) := run next t
    (done ++ later, last)

theorem run_cons (s : Scan) (c : Char) (t : Text) :
    run s (c :: t) = ((step s c).1 ++ (run (step s c).2 t).1, (run (step s c).2 t).2) := rfl

theorem run_append (s : Scan) (t u : Text) :
    run s (t ++ u) = ((run s t).1 ++ (run (run s t).2 u).1, (run (run s t).2 u).2) := by
  induction t generalizing s with
  | nil => simp [run]
  | cons c t ih => simp [run, ih]

/-! ### Quoted strings -/

theorem run_quoted_cons {read t : Text} {c : Char} (hq : c ≠ '"') (hb : c ≠ '\\') :
    run (quoted read) (c :: t) = run (quoted (c :: read)) t := by
  simp [run_cons, step, hq, hb]

theorem run_quoted_pair {read t : Text} {c : Char} :
    run (quoted read) ('\\' :: c :: t) = run (quoted (c :: '\\' :: read)) t := by
  simp [run_cons, step]

theorem run_quoted_digit {read t : Text} {n : Nat} (h : n < 16) :
    run (quoted read) (Nat.digitChar n :: t) = run (quoted (Nat.digitChar n :: read)) t := by
  refine run_quoted_cons ?_ ?_ <;> revert n <;> decide

theorem run_quoted_escapeChar (c : Char) (read t : Text) :
    run (quoted read) (escapeChar c ++ t) = run (quoted ((escapeChar c).reverse ++ read)) t := by
  unfold escapeChar
  split
  case h_8 hq hb _ _ _ _ _ =>
    split
    case isTrue h =>
      have hn : c.toNat < 0x20 := h
      simp only [List.cons_append, List.nil_append, run_quoted_pair]
      rw [run_quoted_cons (by decide) (by decide), run_quoted_cons (by decide) (by decide),
        run_quoted_digit (by omega), run_quoted_digit (by omega)]
      simp
    case isFalse h => exact run_quoted_cons hq hb
  all_goals exact run_quoted_pair

theorem run_quoted_escape (s read t : Text) :
    run (quoted read) (escape s ++ t) = run (quoted ((escape s).reverse ++ read)) t := by
  induction s generalizing read with
  | nil => rfl
  | cons c s ih =>
    have h : escape (c :: s) = escapeChar c ++ escape s := rfl
    rw [h, List.append_assoc, run_quoted_escapeChar, ih]
    simp

/-- A quoted string is one token. -/
theorem run_quote (s t : Text) :
    run between (quote s ++ t) = (.scalar (.string s) :: (run between t).1, (run between t).2) := by
  have h : run between (quote s ++ t) = run (quoted []) (escape s ++ '"' :: t) := by
    simp [quote, run_cons, step, start]
  rw [h, run_quoted_escape]
  simp [run_cons, step, Token.ofQuoted, unescape_escape]

end Scan

/-- The tokens of a JSON text. -/
def tokens (t : Text) : List Token :=
  let (done, last) := Scan.run .between t
  done ++ last.finish

/-! ### Values -/

/-- An open array or object: what has been read of it, in reverse, and in an object the key whose
value is being read. -/
inductive Frame
  | array (done : List Json)
  | object (done : List (Text × Json)) (key : Text)

/-- The most arrays and objects that may be open at once. -/
def maxDepth : Nat := 127

mutual

/-- Reads a value and what follows it. -/
def readValue (stack : List Frame) : List Token → Option Json
  | .scalar v :: rest => resume v stack rest
  | .openArray :: .closeArray :: rest =>
    if stack.length < maxDepth then resume (.array []) stack rest else none
  | .openArray :: rest =>
    if stack.length < maxDepth then readValue (.array [] :: stack) rest else none
  | .openObject :: .closeObject :: rest =>
    if stack.length < maxDepth then resume (.object []) stack rest else none
  | .openObject :: .scalar (.string key) :: .colon :: rest =>
    if stack.length < maxDepth then readValue (.object [] key :: stack) rest else none
  | _ => none

/-- Goes on after a value, which is the last of the innermost frame so far. -/
def resume (v : Json) (stack : List Frame) : List Token → Option Json
  | [] =>
    match stack with
    | [] => some v
    | _ => none
  | .comma :: .scalar (.string key) :: .colon :: rest =>
    match stack with
    | .object done k :: stack => readValue (.object ((k, v) :: done) key :: stack) rest
    | _ => none
  | .comma :: rest =>
    match stack with
    | .array done :: stack => readValue (.array (v :: done) :: stack) rest
    | _ => none
  | .closeArray :: rest =>
    match stack with
    | .array done :: stack => resume (.array (v :: done).reverse) stack rest
    | _ => none
  | .closeObject :: rest =>
    match stack with
    | .object done k :: stack => resume (.object ((k, v) :: done).reverse) stack rest
    | _ => none
  | _ => none

end

/-- The value that the text is. -/
def parse? (t : Text) : Option Json := readValue [] (tokens t)

end Json

end BuildCards
