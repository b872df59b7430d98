import Itinerary.Proofs.Decimal.Digits
import Mathlib.Data.Rat.Cast.Order
import Mathlib.Tactic.FieldSimp

/-!
# What decimals stand for

A decimal is digits with a point among them, behind a minus sign where it is negative, and it stands
for one rational number (`value`). A count of units that is written with so many places behind the
point stands for that many of the parts that these places make of a one, nothing being rounded
(`value_pointed`).
-/

namespace Itinerary.Decimal

/-- The digits of a whole number: at least one, and no zero in front of others. -/
structure IsWhole (ds : List Char) : Prop where
  nonempty : ds ≠ []
  digits : ∀ d ∈ ds, d.isDigit
  leading : ∀ d rest, ds ≠ '0' :: d :: rest

theorem isWhole_digits (n : Nat) : IsWhole (digits n) where
  nonempty := digits_ne_nil n
  digits := fun _ mem => isDigit_of_mem_digits mem
  leading := digits_ne_zero_cons_cons n

/-- What digits with a point among them stand for: those in front of it count ones, and those behind
it the parts that as many places make of a one. -/
def unsignedValue (cs : List Char) : ℚ :=
  let behind := (cs.dropWhile (· ≠ '.')).drop 1
  Nat.ofDigitChars 10 (cs.takeWhile (· ≠ '.')) 0 +
    Nat.ofDigitChars 10 behind 0 / 10 ^ behind.length

/-- What a decimal stands for, exactly: digits with a point among them, behind a minus sign where it
is negative. -/
def value : List Char → ℚ
  | '-' :: cs => -unsignedValue cs
  | cs => unsignedValue cs

/-- The digits that are written for a number have its value. -/
theorem ofDigitChars_digits (n : Nat) : Nat.ofDigitChars 10 (digits n) 0 = n :=
  Nat.ofDigitChars_ten_toDigits

/-- The value of a number does not change with the width that it is padded to. -/
theorem ofDigitChars_padded (width n : Nat) : Nat.ofDigitChars 10 (padded width n) 0 = n := by
  rw [padded, Nat.ofDigitChars_append, Nat.ofDigitChars_replicate_zero, Nat.mul_zero,
    ofDigitChars_digits]

/-- What stands before the point is the whole part. -/
theorem takeWhile_pointed (places units : Nat) :
    (pointed places units).takeWhile (· ≠ '.') = digits (units / 10 ^ places) :=
  Text.takeWhile_append_cons (point_not_mem_digits _) _

/-- What stands behind the point is the remainder, padded to the number of places. -/
theorem drop_dropWhile_pointed (places units : Nat) :
    ((pointed places units).dropWhile (· ≠ '.')).drop 1 = padded places (units % 10 ^ places) := by
  rw [pointed, Text.dropWhile_append_cons (point_not_mem_digits _)]
  rfl

/-- A count of units is read as that many parts of a one. -/
theorem unsignedValue_pointed {places : Nat} (positive : 0 < places) (units : Nat) :
    unsignedValue (pointed places units) = units / 10 ^ places := by
  have small : units % 10 ^ places < tenTo places := Nat.mod_lt _ (Nat.pow_pos (by decide))
  have parts : (units : ℚ) =
      10 ^ places * (units / 10 ^ places : ℕ) + (units % 10 ^ places : ℕ) := by
    exact_mod_cast (Nat.div_add_mod units (10 ^ places)).symm
  simp only [unsignedValue, takeWhile_pointed, drop_dropWhile_pointed, ofDigitChars_digits,
    ofDigitChars_padded, length_padded positive small]
  rw [parts]
  field_simp

/-- A text that starts with a digit has no sign. -/
theorem value_of_isDigit {cs : List Char} {d : Char} (digit : d.isDigit) :
    value (d :: cs) = unsignedValue (d :: cs) := by
  unfold value
  split
  next same =>
    obtain ⟨rfl, -⟩ := List.cons.inj same
    exact absurd digit (by decide)
  next => rfl

/-- Where there is no minus sign, digits come first. -/
theorem value_pointed {places : Nat} (positive : 0 < places) (units : Nat) :
    value (pointed places units) = units / 10 ^ places := by
  obtain ⟨d, ds, front, digit⟩ := digits_eq_cons (units / tenTo places)
  have first : pointed places units = d :: (ds ++ '.' :: padded places (units % tenTo places)) := by
    rw [pointed, front, List.cons_append]
  rw [first, value_of_isDigit digit, ← first, unsignedValue_pointed positive]

end Itinerary.Decimal
