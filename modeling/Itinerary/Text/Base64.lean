/-!
# URL-safe base64 without padding

Three bytes are four letters of six bits each. One byte left over takes two letters, two bytes take
three; the bits of the last letter that carry no data are zero, and reading insists on it. Nothing
marks the end, so a text is refused exactly when it holds a foreign letter, when a single letter is
left over, or when idle bits are set.
-/

namespace Itinerary.Text.Base64

/-- The letter for a group of six bits. -/
def letter (n : Nat) : Char :=
  if n < 26 then Char.ofNat (n + 65)
  else if n < 52 then Char.ofNat (n + 71)
  else if n < 62 then Char.ofNat (n - 4)
  else if n = 62 then '-'
  else '_'

/-- The six bits that a letter stands for. -/
def value? (c : Char) : Option Nat :=
  let n := c.toNat
  if 65 ≤ n ∧ n ≤ 90 then some (n - 65)
  else if 97 ≤ n ∧ n ≤ 122 then some (n - 71)
  else if 48 ≤ n ∧ n ≤ 57 then some (n + 4)
  else if c = '-' then some 62
  else if c = '_' then some 63
  else none

/-- The bytes as groups of six bits. -/
def sextets : List UInt8 → List Nat
  | [] => []
  | [a] => [a.toNat / 4, a.toNat % 4 * 16]
  | [a, b] => [a.toNat / 4, a.toNat % 4 * 16 + b.toNat / 16, b.toNat % 16 * 4]
  | a :: b :: c :: rest =>
    a.toNat / 4 :: (a.toNat % 4 * 16 + b.toNat / 16) :: (b.toNat % 16 * 4 + c.toNat / 64) ::
      c.toNat % 64 :: sextets rest

/-- The bytes that the groups of six bits stand for; a single group left over and idle bits that are
not zero are refused. -/
def bytes? : List Nat → Option (List UInt8)
  | [] => some []
  | [_] => none
  | [p, q] => if q % 16 = 0 then some [UInt8.ofNat (p * 4 + q / 16)] else none
  | [p, q, r] =>
    if r % 4 = 0 then
      some [UInt8.ofNat (p * 4 + q / 16), UInt8.ofNat (q % 16 * 16 + r / 4)]
    else none
  | p :: q :: r :: s :: rest =>
    (bytes? rest).map fun out =>
      UInt8.ofNat (p * 4 + q / 16) :: UInt8.ofNat (q % 16 * 16 + r / 4) ::
        UInt8.ofNat (r % 4 * 64 + s) :: out

/-- The letters for a list of bytes. -/
def encode (bytes : List UInt8) : List Char :=
  (sextets bytes).map letter

/-- The bytes that the letters stand for, or nothing when some letter has no place there. -/
def decode? (cs : List Char) : Option (List UInt8) :=
  (cs.mapM value?).bind bytes?

/-- The text for a list of bytes. -/
def toText (bytes : List UInt8) : String :=
  String.ofList (encode bytes)

/-- The bytes written in a text. -/
def ofText? (s : String) : Option (List UInt8) :=
  decode? s.toList

end Itinerary.Text.Base64
