/-!
# The exact value of a float

A finite double is a whole number times a power of two. `Binary.ofFloat` reads the three fields of
the 64-bit pattern, so everything that is written about a float starts from exact integers.
-/

namespace Itinerary.Decimal

/-- What a double stands for. A finite one is `mantissa * 2 ^ exponent` with a sign; `narrow` says
that the double just below it is only half as far away as the one just above it. -/
inductive Binary where
  | nan
  | infinite (negative : Bool)
  | finite (negative : Bool) (mantissa : Nat) (exponent : Int) (narrow : Bool)

/-- The bit of a mantissa that the pattern does not hold, the 52nd power of two. -/
def hiddenBit : Nat := 4503599627370496

/-- Reads sign, exponent and fraction off the bit pattern. -/
def Binary.ofFloat (x : Float) : Binary :=
  let bits := x.toBits.toNat
  let negative : Bool := bits >>> 63 = 1
  let field : Nat := (bits >>> 52) % 2048
  let fraction : Nat := bits % hiddenBit
  if field = 2047 then
    if fraction = 0 then .infinite negative else .nan
  else if field = 0 then .finite negative fraction (-1074) false
  else .finite negative (hiddenBit + fraction) ((field : Int) - 1075) (fraction = 0 && 1 < field)

/-- A power of ten. -/
def tenTo (n : Nat) : Nat := Nat.pow 10 n

/-- The quotient rounded to the nearest whole number, a half going to the even neighbour. -/
def roundDiv (num den : Nat) : Nat :=
  let q := num / den
  let r := num % den
  if 2 * r < den then q
  else if den < 2 * r then q + 1
  else if q % 2 = 0 then q else q + 1

/-- The decimal digits of a number. -/
def digits (n : Nat) : List Char :=
  Nat.toDigits 10 n

/-- The digits of a number, filled up with zeros in front to at least `width`. -/
def padded (width n : Nat) : List Char :=
  let ds := digits n
  List.replicate (width - ds.length) '0' ++ ds

/-- The digits of a whole number, with a minus sign where it is negative. -/
def signed (i : Int) : List Char :=
  if i < 0 then '-' :: digits i.natAbs else digits i.natAbs

end Itinerary.Decimal
