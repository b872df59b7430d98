import Itinerary.Text.Number
import Itinerary.Decimal.Fixed
import Itinerary.Proofs.Text.Separated
import Mathlib.Data.List.Basic

/-!
# Decimal digits of a number

The digits of a number are never none, hold no zero in front of others, and stand for that number
(`foldl_digits`). So whoever reads digits one by one gets back the number that was written, as far
as it fits (`Text.unsigned?_digits`), and different whole numbers are written differently, also
with a sign (`signed_injective`) and with a hyphen and more behind them (`signed_append_inj`).
Zeros in front change nothing about the number (`foldl_padded`), so it is also seen from its digits
on both sides of a point (`pointed_injective`).
-/

namespace Itinerary.Decimal

theorem digits_ne_nil (n : Nat) : digits n ≠ [] := Nat.toDigits_ne_nil

theorem isDigit_of_mem_digits {n : Nat} {c : Char} (h : c ∈ digits n) : c.isDigit :=
  Nat.isDigit_of_mem_toDigits (by decide) (by decide) h

theorem digits_eq_cons (n : Nat) : ∃ d ds, digits n = d :: ds ∧ d.isDigit := by
  cases same : digits n with
  | nil => exact absurd same (digits_ne_nil n)
  | cons d ds =>
    have first : d ∈ digits n := by
      rw [same]
      exact List.mem_cons_self
    exact ⟨d, ds, rfl, isDigit_of_mem_digits first⟩

/-- The digits of a number, put together again. -/
theorem foldl_digits (n : Nat) :
    (digits n).foldl (fun value d => value * 10 + (d.toNat - 48)) 0 = n := by
  have value : Nat.ofDigitChars 10 (digits n) 0 = n := Nat.ofDigitChars_ten_toDigits
  simp only [Nat.ofDigitChars_eq_foldl, Nat.mul_comm 10] at value
  exact value

theorem digits_injective {m n : Nat} (same : digits m = digits n) : m = n := by
  rw [← foldl_digits m, same, foldl_digits n]

/-- What a whole number is written with. -/
theorem mem_signed {i : Int} {c : Char} (mem : c ∈ signed i) : c = '-' ∨ c.isDigit := by
  unfold signed at mem
  split at mem
  · rcases List.mem_cons.1 mem with rfl | digit
    · exact .inl rfl
    · exact .inr (isDigit_of_mem_digits digit)
  · exact .inr (isDigit_of_mem_digits mem)

/-- A whole number starts with a minus sign or a digit. -/
theorem signed_eq_cons (i : Int) : ∃ c cs, signed i = c :: cs ∧ (c = '-' ∨ c.isDigit) := by
  rw [signed]
  split
  · exact ⟨'-', _, rfl, .inl rfl⟩
  · obtain ⟨d, ds, same, digit⟩ := digits_eq_cons i.natAbs
    exact ⟨d, ds, same, .inr digit⟩

theorem minus_not_mem_digits (n : Nat) : '-' ∉ digits n := fun mem =>
  absurd (isDigit_of_mem_digits mem) (by decide)

/-- What starts with a minus sign is no number without one, whatever follows. -/
theorem minus_cons_ne_digits_append {n : Nat} (cs rest : List Char) :
    '-' :: cs ≠ digits n ++ rest := by
  intro same
  obtain ⟨d, ds, first, digit⟩ := digits_eq_cons n
  rw [first, List.cons_append] at same
  obtain ⟨rfl, -⟩ := List.cons.inj same
  exact absurd digit (by decide)

/-- A whole number ends where the first hyphen behind its sign stands. -/
theorem signed_append_inj {i j : Int} {x y : List Char}
    (same : signed i ++ '-' :: x = signed j ++ '-' :: y) : i = j ∧ x = y := by
  unfold signed at same
  split at same
  · split at same
    · obtain ⟨digits_eq, rest⟩ := Text.append_cons_inj (minus_not_mem_digits _)
        (minus_not_mem_digits _) (List.cons.inj same).2
      have := digits_injective digits_eq
      exact ⟨by omega, rest⟩
    · exact absurd same (minus_cons_ne_digits_append _ _)
  · split at same
    · exact absurd same.symm (minus_cons_ne_digits_append _ _)
    · obtain ⟨digits_eq, rest⟩ := Text.append_cons_inj (minus_not_mem_digits _)
        (minus_not_mem_digits _) same
      have := digits_injective digits_eq
      exact ⟨by omega, rest⟩

/-- A number is known by its digits and its sign. -/
theorem signed_injective {i j : Int} (same : signed i = signed j) : i = j :=
  (signed_append_inj (x := []) (y := []) (by rw [same])).1

/-- Further digits never make a number smaller. -/
theorem le_foldl_digits (ds : List Char) (n : Nat) :
    n ≤ ds.foldl (fun value d => value * 10 + (d.toNat - 48)) n := by
  induction ds generalizing n with
  | nil => exact Nat.le_refl _
  | cons d ds ih =>
    have step : n ≤ n * 10 + (d.toNat - 48) := by omega
    exact Nat.le_trans step (ih _)

/-- No number but zero starts with the digit zero. -/
theorem digits_ne_zero_cons {n : Nat} (h : 0 < n) (rest : List Char) :
    digits n ≠ '0' :: rest := by
  induction n using Nat.strongRecOn generalizing rest with
  | ind n ih =>
    intro same
    by_cases small : n < 10
    · have one : digits n = [n.digitChar] := Nat.toDigits_of_lt_base small
      rw [one] at same
      have all : ∀ n < 10, 0 < n → n.digitChar ≠ '0' := by decide
      exact all n small h (List.cons.inj same).1
    · have more : digits n = digits (n / 10) ++ [(n % 10).digitChar] :=
        Nat.toDigits_of_base_le (by decide) (by omega)
      rw [more] at same
      cases front : digits (n / 10) with
      | nil => exact digits_ne_nil _ front
      | cons c cs =>
        rw [front, List.cons_append] at same
        obtain ⟨rfl, -⟩ := List.cons.inj same
        exact ih (n / 10) (by omega) (by omega) cs front

theorem digits_zero : digits 0 = ['0'] := by decide

/-- The digits of a number start with a zero only where they are nothing else. -/
theorem digits_ne_zero_cons_cons (n : Nat) (d : Char) (ds : List Char) :
    digits n ≠ '0' :: d :: ds := by
  rcases Nat.eq_zero_or_pos n with rfl | positive
  · rw [digits_zero]
    exact fun same => List.cons_ne_nil d ds (List.cons.inj same).2.symm
  · exact digits_ne_zero_cons positive _

/-! ## Zeros in front and points -/

/-- Padding brings in nothing but digits. -/
theorem isDigit_of_mem_padded {width n : Nat} {c : Char} (mem : c ∈ padded width n) :
    c.isDigit := by
  rcases List.mem_append.1 mem with zero | digit
  · rw [List.eq_of_mem_replicate zero]
    decide
  · exact isDigit_of_mem_digits digit

theorem foldl_zeros (count : Nat) :
    (List.replicate count '0').foldl (fun value d => value * 10 + (d.toNat - 48)) 0 = 0 := by
  induction count with
  | zero => rfl
  | succ count ih => exact ih

/-- Zeros in front do not change the number that the digits stand for. -/
theorem foldl_padded (width n : Nat) :
    (padded width n).foldl (fun value d => value * 10 + (d.toNat - 48)) 0 = n := by
  rw [padded, List.foldl_append, foldl_zeros, foldl_digits]

/-- Numbers that are padded to one width are told apart, also those that are too long for it. -/
theorem padded_injective {width m n : Nat} (same : padded width m = padded width n) : m = n := by
  rw [← foldl_padded width m, same, foldl_padded width n]

/-- A number below a power of ten fills as many places. -/
theorem length_padded {width n : Nat} (positive : 0 < width) (small : n < tenTo width) :
    (padded width n).length = width := by
  have short : (digits n).length ≤ width :=
    (Nat.length_toDigits_le_iff (by decide) positive).2 small
  rw [padded, List.length_append, List.length_replicate, Nat.sub_add_cancel short]

/-- A number of at most two digits fills two places. -/
theorem length_padded_two {n : Nat} (small : n < 100) : (padded 2 n).length = 2 :=
  length_padded (by decide) small

/-- What stands in front of a mark with two digits behind it, and the number that these make. -/
theorem append_padded_two_inj {a b : List Char} {c d : Char} {m n : Nat} (small : m < 100)
    (small' : n < 100) (same : a ++ c :: padded 2 m = b ++ d :: padded 2 n) :
    a = b ∧ c = d ∧ m = n := by
  have length : (c :: padded 2 m).length = (d :: padded 2 n).length := by
    simp only [List.length_cons, length_padded_two small, length_padded_two small']
  obtain ⟨front, behind⟩ := List.append_inj' same length
  obtain ⟨mark, digits⟩ := List.cons.inj behind
  exact ⟨front, mark, padded_injective digits⟩

theorem point_not_mem_digits (n : Nat) : '.' ∉ digits n := fun mem =>
  absurd (isDigit_of_mem_digits mem) (by decide)

/-- A decimal without its sign is written with digits and the point. -/
theorem mem_pointed {places units : Nat} {c : Char} (mem : c ∈ pointed places units) :
    c = '.' ∨ c.isDigit := by
  rcases List.mem_append.1 mem with whole | rest
  · exact .inr (isDigit_of_mem_digits whole)
  · rcases List.mem_cons.1 rest with rfl | behind
    · exact .inl rfl
    · exact .inr (isDigit_of_mem_padded behind)

/-- A count of units is seen from the digits in front of the point and those behind it. -/
theorem pointed_injective {places m n : Nat} (same : pointed places m = pointed places n) :
    m = n := by
  obtain ⟨whole, behind⟩ :=
    Text.append_cons_inj (point_not_mem_digits _) (point_not_mem_digits _) same
  rw [← Nat.div_add_mod m (tenTo places), digits_injective whole, padded_injective behind,
    Nat.div_add_mod]

end Itinerary.Decimal

namespace Itinerary.Text

/-- Reading digits one after the other gives the number that they stand for. -/
theorem naturalFrom?_of_isDigit {ds : List Char} (h : ∀ c ∈ ds, c.isDigit) (n : Nat) :
    naturalFrom? n ds = some (ds.foldl (fun value d => value * 10 + (d.toNat - 48)) n) := by
  induction ds generalizing n with
  | nil => rfl
  | cons d ds ih =>
    obtain ⟨hd, hds⟩ := List.forall_mem_cons.1 h
    rw [naturalFrom?, if_pos hd, ih hds]
    rfl

theorem natural?_digits (n : Nat) : natural? (Decimal.digits n) = some n := by
  obtain ⟨d, ds, same, -⟩ := Decimal.digits_eq_cons n
  rw [same, natural?, ← same, naturalFrom?_of_isDigit (fun _ => Decimal.isDigit_of_mem_digits),
    Decimal.foldl_digits]

/-- The digits of a number below a bound are read as that number. -/
theorem unsigned?_digits {n bound : Nat} (h : n < bound) :
    unsigned? bound (Decimal.digits n) = some n := by
  unfold unsigned?
  split
  · rename_i rest same
    have plus : '+' ∈ Decimal.digits n := by
      rw [same]
      exact List.mem_cons_self
    exact absurd (Decimal.isDigit_of_mem_digits plus) (by decide)
  · rw [natural?_digits]
    exact Option.filter_eq_some_iff.2 ⟨rfl, decide_eq_true h⟩

end Itinerary.Text
