import BuildCards.IdSupply

/-!
# Identifiers of version 4

A version 4 UUID holds 122 free bits, a version and a variant, written as 32 hexadecimal digits in
five groups.  `IdSupply.uuids` is a supply of them from a seed: it steps through the numbers of 122
bits, and as its step is odd it meets all of them before one comes again.
-/

namespace BuildCards

namespace Uuid

/-- The lowest `count` hexadecimal digits of a number. -/
def hexDigits (n : Nat) : Nat → Text
  | 0 => []
  | count + 1 => hexDigits (n / 16) count ++ [Nat.digitChar (n % 16)]

/-- The UUID with these free bits. -/
def ofBits (bits : Nat) : Text :=
  let low := bits % Nat.pow 2 62
  let middle := bits / Nat.pow 2 62 % Nat.pow 2 12
  let high := bits / Nat.pow 2 74
  let timeDigits := hexDigits high 12
  let lowDigits := hexDigits (Nat.pow 2 63 + low) 16
  timeDigits.take 8 ++ '-' :: timeDigits.drop 8 ++ '-' :: '4' :: hexDigits middle 3 ++
    '-' :: lowDigits.take 4 ++ '-' :: lowDigits.drop 4

/-- The character is a digit of a UUID. -/
def isDigit (c : Char) : Bool := c.isDigit || ('a' ≤ c && c ≤ 'f')

/-- The text is a UUID of version 4 in lower case. -/
def isVersion4 (t : Text) : Bool :=
  match t.splitOn '-' with
  | [a, b, c, d, e] =>
    [a, b, c, d, e].map List.length == [8, 4, 4, 4, 12] &&
      [a, b, c, d, e].all (·.all isDigit) &&
      c.head? == some '4' && (d.head?.any (['8', '9', 'a', 'b'].contains ·))
  | _ => false

end Uuid

/-- The UUIDs that follow from a seed. -/
def IdSupply.uuids (seed : Nat) : IdSupply :=
  ⟨fun n => Uuid.ofBits ((seed + n * 0x2545f4914f6cdd1d9e3779b97f4a7c1) % Nat.pow 2 122), 0⟩

end BuildCards
