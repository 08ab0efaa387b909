import BuildCards.Text.Basic

/-!
# Numbers in JSON

A number is digits, perhaps with a sign, a fraction and an exponent (`Literal.ofText?`).  It also
has to have a value among the doubles (`Literal.inRange`).  The value is found in three steps: as
many digits as fit into 64 bits make an integer, the rest only shifts the exponent, and the integer
is multiplied with a power of ten, each of the two factors and the product being rounded to 53
significant bits.
-/

namespace BuildCards

namespace Json

/-- A number as it is written. -/
structure Literal where
  /-- The digits before the point. -/
  whole : Text
  /-- The digits after the point. -/
  fraction : Text
  /-- The exponent. -/
  exponent : Int

namespace Literal

/-! ### The grammar -/

/-- The value of a text of digits. -/
def digitsValue (digits : Text) : Nat :=
  digits.foldl (fun n c => n * 10 + (c.toNat - '0'.toNat)) 0

/-- The exponent that the end of a number gives; no end means zero. -/
def exponentOf? : Text → Option Int
  | [] => some 0
  | c :: t =>
    if c ≠ 'e' ∧ c ≠ 'E' then none
    else
      let (negative, digits) : Bool × Text :=
        match t with
        | '-' :: digits => (true, digits)
        | '+' :: digits => (false, digits)
        | digits => (false, digits)
      if digits.isEmpty || !digits.all Char.isDigit then none
      else some (if negative then -(digitsValue digits : Int) else digitsValue digits)

/-- The number in a text.  There is a digit before the point and one after it, and no zero stands
before other digits. -/
def ofText? (t : Text) : Option Literal :=
  let t := match t with
    | '-' :: digits => digits
    | digits => digits
  let whole := t.takeWhile Char.isDigit
  if whole.isEmpty || (whole.head? == some '0' && whole ≠ ['0']) then none
  else
    match t.dropWhile Char.isDigit with
    | '.' :: t =>
      let fraction := t.takeWhile Char.isDigit
      if fraction.isEmpty then none
      else (exponentOf? (t.dropWhile Char.isDigit)).map (⟨whole, fraction, ·⟩)
    | t => (exponentOf? t).map (⟨whole, [], ·⟩)

/-! ### The value -/

/-- The integer with one more digit, if it fits into 64 bits. -/
def push? (n : Nat) (c : Char) : Option Nat :=
  let m := n * 10 + (c.toNat - '0'.toNat)
  if m < Nat.pow 2 64 then some m else none

/-- The integer of the digits before the point, and the number of those that did not fit. -/
def wholeValue (n : Nat) : Text → Nat × Nat
  | [] => (n, 0)
  | c :: t =>
    match push? n c with
    | some m => wholeValue m t
    | none => (n, t.length + 1)

/-- The integer after the digits behind the point, and the number of those that did fit. -/
def fractionValue (n : Nat) : Text → Nat × Nat
  | [] => (n, 0)
  | c :: t =>
    match push? n c with
    | some m =>
      let (n, taken) := fractionValue m t
      (n, taken + 1)
    | none => (n, 0)

/-- The number with 53 significant bits that is nearest, the even one of two that are. -/
def round53 (n : Nat) : Nat :=
  let bits := n.log2 - 52
  let head := n >>> bits
  let tail := n % Nat.pow 2 bits
  if 2 * tail > Nat.pow 2 bits ∨ (2 * tail = Nat.pow 2 bits ∧ head % 2 = 1) then
    (head + 1) <<< bits
  else head <<< bits

/-- The value is below `2 ^ 1024`, the end of the doubles. -/
def inRange (l : Literal) : Bool :=
  let (n, dropped) := wholeValue 0 l.whole
  let (n, taken) := fractionValue n l.fraction
  match l.exponent + dropped - taken with
  | .ofNat e => n == 0 || (e ≤ 308 && round53 (round53 n * round53 (Nat.pow 10 e)) < Nat.pow 2 1024)
  | .negSucc _ => true

end Literal

/-- The text is a number that JSON allows and a double can hold. -/
def isNumber (t : Text) : Bool := (Literal.ofText? t).any Literal.inRange

end Json

end BuildCards
