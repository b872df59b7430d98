/-!
# Whole numbers in texts

A number is one decimal digit or more, leading zeros included, and nothing else; a plus sign may
stand in front of it, and a minus sign where negative numbers are in range. Numbers outside their
range are refused.
-/

namespace Itinerary.Text

/-- The number that digits continue. -/
def naturalFrom? (n : Nat) : List Char → Option Nat
  | [] => some n
  | c :: rest => if c.isDigit then naturalFrom? (n * 10 + (c.toNat - 48)) rest else none

/-- The number that one digit or more stand for. -/
def natural? : List Char → Option Nat
  | [] => none
  | c :: rest => naturalFrom? 0 (c :: rest)

/-- A number below a bound, with or without a plus sign. -/
def unsigned? (bound : Nat) (cs : List Char) : Option Nat :=
  let n := match cs with
    | '+' :: rest => natural? rest
    | _ => natural? cs
  n.filter (· < bound)

/-- A number from `-bound` up to but not including `bound`, with or without a sign. -/
def integer? (bound : Nat) (cs : List Char) : Option Int :=
  match cs with
  | '-' :: rest => ((natural? rest).filter (· ≤ bound)).map fun n => -(n : Int)
  | _ => (unsigned? bound cs).map Int.ofNat

end Itinerary.Text
