import Itinerary.Text.Number

/-!
# Floats in texts

A float is written as digits with at most one point among or around them and an exponent behind them
if need be, or as a word for infinity or for no number, all of it in either case and with a sign in
front if need be. Its value is the double nearest to what is written.
-/

namespace Itinerary.Decimal

/-- The double nearest to `digits * 10 ^ exponent`. What has more than 310 digits in front of the
point is infinite, and what starts more than 330 places behind it is zero. -/
def nearest (digits : Nat) (exponent : Int) : Float :=
  if digits = 0 then 0.0
  else
    let magnitude := (Nat.toDigits 10 digits).length + exponent
    if 310 < magnitude then 1.0 / 0.0
    else if magnitude < -330 then 0.0
    else Float.ofScientific digits (exponent < 0) exponent.natAbs

/-- The number behind the letter of an exponent. -/
def exponent? : List Char → Option Int
  | '-' :: digits => (Text.natural? digits).map fun n => -(n : Int)
  | '+' :: digits => (Text.natural? digits).map Int.ofNat
  | digits => (Text.natural? digits).map Int.ofNat

/-- A number without sign. -/
def unsigned? (cs : List Char) : Option Float :=
  let whole := cs.takeWhile Char.isDigit
  let (fraction, tail) := match cs.dropWhile Char.isDigit with
    | '.' :: more => (more.takeWhile Char.isDigit, more.dropWhile Char.isDigit)
    | tail => ([], tail)
  match Text.natural? (whole ++ fraction) with
  | none => none
  | some digits =>
    let places : Int := fraction.length
    match tail with
    | [] => some (nearest digits (-places))
    | c :: more =>
      if c = 'e' ∨ c = 'E' then (exponent? more).map fun e => nearest digits (e - places)
      else none

/-- A number without sign, or a word in its place. -/
def unsignedOrWord? (cs : List Char) : Option Float :=
  let word := String.ofList (cs.map Char.toLower)
  if word = "inf" ∨ word = "infinity" then some (1.0 / 0.0)
  else if word = "nan" then some (0.0 / 0.0)
  else unsigned? cs

/-- The float that a text stands for. -/
def float? (text : String) : Option Float :=
  match text.toList with
  | '-' :: cs => (unsignedOrWord? cs).map fun x => -x
  | '+' :: cs => unsignedOrWord? cs
  | cs => unsignedOrWord? cs

end Itinerary.Decimal
