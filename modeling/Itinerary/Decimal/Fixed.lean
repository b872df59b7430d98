import Itinerary.Decimal.Binary

/-!
# Floats with a fixed number of decimal places

The exact value is rounded once, to the nearest multiple of the last place, a half going to the even
neighbour. The sign is kept also where every digit is zero.
-/

namespace Itinerary.Decimal

/-- The whole and the fractional digits of a count of units, `places` of which are behind the
point. -/
def pointed (places units : Nat) : List Char :=
  digits (units / tenTo places) ++ '.' :: padded places (units % tenTo places)

/-- The absolute value `mantissa * 2 ^ exponent` in units of the last place, rounded. -/
def unitsOf (places mantissa : Nat) (exponent : Int) : Nat :=
  if 0 ≤ exponent then (mantissa <<< exponent.toNat) * tenTo places
  else roundDiv (mantissa * tenTo places) (1 <<< (-exponent).toNat)

/-- The float with exactly `places` digits behind the point; at least one place. -/
def fixed (places : Nat) (x : Float) : String :=
  match Binary.ofFloat x with
  | .nan => "NaN"
  | .infinite negative => if negative then "-inf" else "inf"
  | .finite negative mantissa exponent _ =>
    let body := pointed places (unitsOf places mantissa exponent)
    String.ofList (if negative then '-' :: body else body)

end Itinerary.Decimal
