/-!
# Hexadecimal digits

A byte is two digits, the high half first. Digits are read in either case and written in the lower
one, so reading a digit that was written gives its number back (`Hex.value?_digit`). Whole lists of
bytes are spelled with digits by the test driver only.
-/

namespace Itinerary.Text.Hex

/-- The digit for a number below sixteen. -/
def digit (n : Nat) : Char := Nat.digitChar n

/-- The value of a digit in either case. -/
def value? (c : Char) : Option Nat :=
  let n := c.toNat
  if 48 ≤ n ∧ n ≤ 57 then some (n - 48)
  else if 65 ≤ n ∧ n ≤ 70 then some (n - 55)
  else if 97 ≤ n ∧ n ≤ 102 then some (n - 87)
  else none

/-- The digit for a number stands for that number. -/
theorem value?_digit {n : Nat} (h : n < 16) : value? (digit n) = some n := by
  have all : ∀ n < 16, value? (digit n) = some n := by decide
  exact all n h

/-- The two digits of a byte. -/
def pair (b : UInt8) : List Char := [digit (b.toNat / 16), digit (b.toNat % 16)]

/-- The digits of some bytes. -/
def encode (bytes : List UInt8) : List Char := bytes.flatMap pair

/-- The bytes that digits stand for; a foreign character and a digit without a partner are
refused. -/
def decode? : List Char → Option (List UInt8)
  | [] => some []
  | high :: low :: rest =>
    match value? high, value? low with
    | some x, some y => (decode? rest).map (UInt8.ofNat (16 * x + y) :: ·)
    | _, _ => none
  | [_] => none

end Itinerary.Text.Hex
