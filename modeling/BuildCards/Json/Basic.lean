import BuildCards.Text.Basic

/-!
# JSON values

The values of JSON, and how they are written.  A number is kept as it is written, and an object
keeps the order of its members, so that reading loses nothing that a text can show.

`Json.escape` writes the characters of a string as they stand between its quotes and
`Json.unescape` reads them.  Writing is sparing: only the quote, the backslash and the characters
below the space are escaped, those with a letter of their own by it and the others by their code.
Reading takes every escape, and joins two escapes that are the halves of one character.  Reading
undoes writing (`Json.unescape_escape`).

`Json.write` writes a value without any space (`Json.compact`), or with one item or member to a
line, indented by two spaces for each array or object around it (`Json.pretty`).
-/

namespace BuildCards

/-- A JSON value. -/
inductive Json
  | null
  | bool (value : Bool)
  | number (literal : Text)
  | string (value : Text)
  | array (items : List Json)
  | object (members : List (Text × Json))

namespace Json

/-! ### Writing strings -/

/-- A character between quotes. -/
def escapeChar (c : Char) : Text :=
  match c with
  | '"' => ['\\', '"']
  | '\\' => ['\\', '\\']
  | '\x08' => ['\\', 'b']
  | '\x0c' => ['\\', 'f']
  | '\n' => ['\\', 'n']
  | '\x0d' => ['\\', 'r']
  | '\t' => ['\\', 't']
  | c =>
    if c < ' ' then
      ['\\', 'u', '0', '0', Nat.digitChar (c.toNat / 16), Nat.digitChar (c.toNat % 16)]
    else [c]

/-- The characters between the quotes of a string. -/
def escape (t : Text) : Text := t.flatMap escapeChar

/-- The string in quotes. -/
def quote (t : Text) : Text := '"' :: (escape t ++ ['"'])

/-- What is written for a character has none below the space. -/
theorem space_le_of_mem_escapeChar {c d : Char} (h : d ∈ escapeChar c) : ' ' ≤ d := by
  unfold escapeChar at h
  split at h
  case h_8 =>
    split at h
    case isTrue hc =>
      have hlow : c.toNat < 0x20 := hc
      have hdigit {n : Nat} (hn : n < 16) : ' ' ≤ Nat.digitChar n := by
        revert n
        decide
      simp only [List.mem_cons, List.not_mem_nil, or_false] at h
      rcases h with rfl | rfl | rfl | rfl | rfl | rfl
      · decide
      · decide
      · decide
      · decide
      · exact hdigit (by omega)
      · exact hdigit (by omega)
    case isFalse hc =>
      rw [List.mem_singleton] at h
      exact h ▸ Char.not_lt.1 hc
  all_goals
    simp only [List.mem_cons, List.not_mem_nil, or_false] at h
    rcases h with rfl | rfl <;> decide

/-- So a quoted string stands on one line. -/
theorem space_le_of_mem_quote {t : Text} {d : Char} (h : d ∈ quote t) : ' ' ≤ d := by
  rw [quote, List.mem_cons, List.mem_append, List.mem_singleton] at h
  rcases h with rfl | h | rfl
  · decide
  · obtain ⟨c, -, hc⟩ := List.mem_flatMap.1 h
    exact space_le_of_mem_escapeChar hc
  · decide

/-! ### Reading strings -/

/-- The character named by the letter after a backslash. -/
def namedChar? : Char → Option Char
  | '"' => some '"'
  | '\\' => some '\\'
  | '/' => some '/'
  | 'b' => some '\x08'
  | 'f' => some '\x0c'
  | 'n' => some '\n'
  | 'r' => some '\x0d'
  | 't' => some '\t'
  | _ => none

/-- The value of a hexadecimal digit. -/
def hexDigit? (c : Char) : Option Nat :=
  if '0' ≤ c ∧ c ≤ '9' then some (c.toNat - '0'.toNat)
  else if 'a' ≤ c ∧ c ≤ 'f' then some (c.toNat - 'a'.toNat + 10)
  else if 'A' ≤ c ∧ c ≤ 'F' then some (c.toNat - 'A'.toNat + 10)
  else none

/-- The value of four hexadecimal digits. -/
def hex4? (a b c d : Char) : Option Nat := do
  let a ← hexDigit? a
  let b ← hexDigit? b
  let c ← hexDigit? c
  let d ← hexDigit? d
  return ((a * 16 + b) * 16 + c) * 16 + d

/-- The code is the first half of a character. -/
def isFirstHalf (n : Nat) : Bool := 0xd800 ≤ n && n < 0xdc00

/-- The code is the second half of a character. -/
def isSecondHalf (n : Nat) : Bool := 0xdc00 ≤ n && n < 0xe000

/-- The character with these halves. -/
def joinHalves (first second : Nat) : Char :=
  Char.ofNat (0x10000 + (first - 0xd800) * 0x400 + (second - 0xdc00))

/-- The string whose characters between the quotes are given.  A quote does not stand alone there,
nor does a character below the space or half a character. -/
def unescape : Text → Option Text
  | [] => some []
  | '\\' :: 'u' :: a :: b :: c :: d :: t =>
    match hex4? a b c d with
    | none => none
    | some n =>
      if isFirstHalf n then
        match t with
        | '\\' :: 'u' :: a' :: b' :: c' :: d' :: t' =>
          match hex4? a' b' c' d' with
          | none => none
          | some m => if isSecondHalf m then (unescape t').map (joinHalves n m :: ·) else none
        | _ => none
      else if isSecondHalf n then none
      else (unescape t).map (Char.ofNat n :: ·)
  | '\\' :: c :: t =>
    match namedChar? c with
    | some d => (unescape t).map (d :: ·)
    | none => none
  | c :: t => if c < ' ' ∨ c = '"' ∨ c = '\\' then none else (unescape t).map (c :: ·)

/-! ### Reading strings that were written -/

theorem unescape_named {c d : Char} {t : Text} (hc : c ≠ 'u') (h : namedChar? c = some d) :
    unescape ('\\' :: c :: t) = (unescape t).map (d :: ·) := by
  rw [unescape]
  · simp [h]
  · intro _ _ _ _ _ hu
    exact absurd hu hc

theorem unescape_plain {c : Char} {t : Text} (h : ¬ c < ' ') (hq : c ≠ '"') (hb : c ≠ '\\') :
    unescape (c :: t) = (unescape t).map (c :: ·) := by
  rw [unescape]
  · simp [h, hq, hb]
  · intro _ _ _ _ _ h
    exact absurd h hb
  · intro _ _ h
    exact absurd h hb

theorem hexDigit?_digitChar {n : Nat} (h : n < 16) : hexDigit? (Nat.digitChar n) = some n := by
  revert n; decide

theorem unescape_code {n : Nat} {t : Text} (h : n < 0x20) :
    unescape ('\\' :: 'u' :: '0' :: '0' :: Nat.digitChar (n / 16) :: Nat.digitChar (n % 16) :: t) =
      (unescape t).map (Char.ofNat n :: ·) := by
  have h0 : hexDigit? '0' = some 0 := by decide
  have hc : hex4? '0' '0' (Nat.digitChar (n / 16)) (Nat.digitChar (n % 16)) = some n := by
    simp only [hex4?, h0, hexDigit?_digitChar (show n / 16 < 16 by omega),
      hexDigit?_digitChar (show n % 16 < 16 by omega)]
    simp
    omega
  have hf : isFirstHalf n = false := by simp [isFirstHalf]; omega
  have hs : isSecondHalf n = false := by simp [isSecondHalf]; omega
  rw [unescape]
  simp [hc, hf, hs]

theorem unescape_escapeChar (c : Char) (t : Text) :
    unescape (escapeChar c ++ t) = (unescape t).map (c :: ·) := by
  unfold escapeChar
  split
  case h_8 hq hb _ _ _ _ _ =>
    split
    case isTrue h =>
      have hn : c.toNat < 0x20 := h
      simpa [Char.ofNat_toNat] using unescape_code (t := t) hn
    case isFalse h => exact unescape_plain h hq hb
  all_goals exact unescape_named (by decide) rfl

/-- Reading undoes writing. -/
theorem unescape_escape (t : Text) : unescape (escape t) = some t := by
  induction t with
  | nil => rfl
  | cons c t ih =>
    rw [escape, List.flatMap_cons, unescape_escapeChar]
    change Option.map _ (unescape (escape t)) = _
    rw [ih]; rfl

/-! ### Writing values -/

/-- A truth value in JSON. -/
def boolText (b : Bool) : Text := if b then "true".toList else "false".toList

/-- A new line inside `depth` arrays and objects, or nothing if there is no space. -/
def lineBreak : Option Nat → Text
  | none => []
  | some depth => '\n' :: List.replicate (2 * depth) ' '

/-- The pieces between two brackets; `indent` tells how many arrays and objects are around them if
they are put on a line each. -/
def block (indent : Option Nat) (opening closing : Char) (pieces : List Text) : Text :=
  if pieces.isEmpty then [opening, closing]
  else
    opening :: (lineBreak (indent.map (· + 1)) ++
      (',' :: lineBreak (indent.map (· + 1))).intercalate pieces ++ lineBreak indent ++ [closing])

/-- A key with the text of its value, which a space may precede. -/
def member (spaced : Bool) (key value : Text) : Text :=
  quote key ++ ':' :: ((if spaced then [' '] else []) ++ value)

mutual

/-- The value without space, or over several lines inside so many arrays and objects. -/
def write (indent : Option Nat) : Json → Text
  | .null => "null".toList
  | .bool b => boolText b
  | .number literal => literal
  | .string s => quote s
  | .array items => block indent '[' ']' (writeItems (indent.map (· + 1)) items)
  | .object members => block indent '{' '}' (writeMembers (indent.map (· + 1)) members)

/-- Each value. -/
def writeItems (indent : Option Nat) : List Json → List Text
  | [] => []
  | v :: rest => write indent v :: writeItems indent rest

/-- Each member. -/
def writeMembers (indent : Option Nat) : List (Text × Json) → List Text
  | [] => []
  | (key, v) :: rest => member indent.isSome key (write indent v) :: writeMembers indent rest

end

/-- The value without space. -/
def compact (v : Json) : Text := write none v

/-- The value over several lines. -/
def pretty (v : Json) : Text := write (some 0) v

end Json

end BuildCards
