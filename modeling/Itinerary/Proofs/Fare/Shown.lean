import Itinerary.Fare
import Itinerary.Proofs.Decimal.Value
import Mathlib.Tactic.Ring

/-!
# Fares as riders see them

A fare is shown as its amount, a blank and its currency. The amount is written with two places
behind the point, and as a decimal it is a hundredth of the number of units, also where the whole
part is zero and only the sign tells that the amount is negative (`Fare.value_amountChars`). Amounts
hold no blank, while a currency may hold anything, blanks and digits too; so the first blank is
where the amount ends, and the text of a fare tells its amount and its currency
(`Fare.text_exact`).
-/

namespace Itinerary.Fare

/-! ## Amounts -/

/-- An amount is written as the hundredth of its units, exactly. -/
theorem value_amountChars (amount : Int) :
    Decimal.value (amountChars amount) = (amount : ℚ) / 100 := by
  have hundred : (10 ^ 2 : ℚ) = 100 := by norm_num
  by_cases negative : amount < 0
  -- The sign stands in front of the digits of the absolute value, which every amount has.
  · have units : (amount.natAbs : ℚ) = -amount := by
      rw [Nat.cast_natAbs, abs_of_neg negative, Int.cast_neg]
    rw [amountChars, if_pos negative, Decimal.value, Decimal.unsignedValue_pointed (by decide),
      hundred, units]
    ring
  · have units : (amount.natAbs : ℚ) = amount := by
      rw [Nat.cast_natAbs, abs_of_nonneg (not_lt.1 negative)]
    rw [amountChars, if_neg negative, Decimal.value_pointed (by decide), hundred, units]

/-- An amount is known from what is written of it, since that has its value. -/
theorem amountChars_injective {a b : Int} (same : amountChars a = amountChars b) : a = b := by
  have values : (a : ℚ) / 100 = b / 100 := by
    rw [← value_amountChars a, same, value_amountChars b]
  exact Int.cast_injective ((div_left_inj' (by norm_num)).1 values)

/-- The first blank of a shown fare stands behind the amount. -/
theorem blank_not_mem_amountChars (amount : Int) : ' ' ∉ amountChars amount := by
  have clear : ' ' ∉ Decimal.pointed 2 amount.natAbs := by
    intro mem
    rcases Decimal.mem_pointed mem with point | digit
    · exact absurd point (by decide)
    · exact absurd digit (by decide)
  unfold amountChars
  split
  · exact fun mem => clear (List.mem_of_ne_of_mem (by decide) mem)
  · exact clear

/-- A minus sign where the amount is negative, a whole number, a point and two digits. -/
theorem amountChars_parts (amount : Int) : ∃ whole cents,
    amountChars amount = (if amount < 0 then ['-'] else []) ++ whole ++ '.' :: cents ∧
      Decimal.IsWhole whole ∧ cents.length = 2 ∧ ∀ d ∈ cents, d.isDigit := by
  have small : amount.natAbs % 100 < Decimal.tenTo 2 := Nat.mod_lt _ (by decide)
  refine ⟨_, _, ?_, Decimal.isWhole_digits (amount.natAbs / 100),
    Decimal.length_padded (by decide) small, fun _ => Decimal.isDigit_of_mem_padded⟩
  unfold amountChars
  split
  · rfl
  · rfl

/-! ## Texts -/

/-- A shown fare is the amount, a blank and the currency. -/
theorem toList_text (f : Fare) :
    f.text.toList = amountChars f.amount.toInt ++ ' ' :: f.currency.toList :=
  String.toList_ofList

/-- The amount is what stands in front of the first blank. -/
theorem takeWhile_text (f : Fare) :
    f.text.toList.takeWhile (· ≠ ' ') = amountChars f.amount.toInt := by
  rw [toList_text, Text.takeWhile_append_cons (blank_not_mem_amountChars _)]

/-- Two fares are shown alike just if they are the same amount in the same currency. -/
theorem text_eq_iff {f g : Fare} :
    f.text = g.text ↔ f.amount = g.amount ∧ f.currency = g.currency := by
  rw [← String.toList_inj, toList_text, toList_text]
  constructor
  · intro same
    obtain ⟨amounts, currencies⟩ := Text.append_cons_inj (blank_not_mem_amountChars _)
      (blank_not_mem_amountChars _) same
    exact ⟨Int64.toInt.inj (amountChars_injective amounts), String.toList_inj.1 currencies⟩
  · rintro ⟨amounts, currencies⟩
    rw [amounts, currencies]

/-- The text of a fare is a minus sign or none, a whole number, a point, two digits, a blank and the
currency. What stands in front of the first blank is, as a decimal, just a hundredth of the amount,
and two fares have one text if they have one amount and one currency, and only then. -/
theorem text_exact (f : Fare) :
    (∃ whole cents, f.text.toList =
        (if f.amount.toInt < 0 then ['-'] else []) ++ whole ++ '.' :: cents ++
          ' ' :: f.currency.toList ∧
      Decimal.IsWhole whole ∧ cents.length = 2 ∧ ∀ d ∈ cents, d.isDigit) ∧
    Decimal.value (f.text.toList.takeWhile (· ≠ ' ')) = (f.amount.toInt : ℚ) / 100 ∧
    ∀ g : Fare, f.text = g.text ↔ f.amount = g.amount ∧ f.currency = g.currency := by
  refine ⟨?_, ?_, fun g => text_eq_iff⟩
  · obtain ⟨whole, cents, parts, numeral, two, digits⟩ := amountChars_parts f.amount.toInt
    exact ⟨whole, cents, by rw [toList_text, parts], numeral, two, digits⟩
  · rw [takeWhile_text, value_amountChars]

example : text ⟨"net", .adult, "EUR", -5, none, none, none⟩ = "-0.05 EUR" := by cbv

end Itinerary.Fare
