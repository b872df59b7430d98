import Itinerary.Proofs.Decimal.Digits

/-!
# Which texts are numbers

A numeral is one decimal digit or more, zeros in front included, behind a plus sign or not
(`Numeral`). What is read as a number below a bound is just the numerals of such numbers
(`unsigned?_eq_some_iff`): no other sign, no blank and no other digit is accepted, and however many
digits there are, it is the number that counts.
-/

namespace Itinerary.Text

/-- Decimal digits, at least one, behind a plus sign or not, and the number that they stand for. -/
def Numeral (cs : List Char) (n : Nat) : Prop :=
  ∃ ds, (cs = ds ∨ cs = '+' :: ds) ∧ ds ≠ [] ∧ (∀ c ∈ ds, c.isDigit) ∧
    Nat.ofDigitChars 10 ds 0 = n

/-- Where a number is read, all characters are digits. -/
theorem isDigit_of_naturalFrom? {ds : List Char} {n m : Nat} (h : naturalFrom? n ds = some m) :
    ∀ c ∈ ds, c.isDigit := by
  induction ds generalizing n with
  | nil => exact fun c mem => absurd mem List.not_mem_nil
  | cons d ds ih =>
    unfold naturalFrom? at h
    split at h
    · rename_i digit
      exact List.forall_mem_cons.2 ⟨digit, ih h⟩
    · contradiction

/-- A number is read from digits, from at least one, and it is the one that they stand for. -/
theorem natural?_eq_some_iff {ds : List Char} {n : Nat} :
    natural? ds = some n ↔
      ds ≠ [] ∧ (∀ c ∈ ds, c.isDigit) ∧ Nat.ofDigitChars 10 ds 0 = n := by
  cases ds with
  | nil => exact ⟨nofun, fun ⟨nonempty, _⟩ => absurd rfl nonempty⟩
  | cons d ds =>
    have value (digits : ∀ c ∈ d :: ds, c.isDigit) :
        natural? (d :: ds) = some (Nat.ofDigitChars 10 (d :: ds) 0) := by
      rw [natural?, naturalFrom?_of_isDigit digits, Nat.ofDigitChars_eq_foldl]
      simp only [Nat.mul_comm 10]
      rfl
    constructor
    · intro h
      have digits := isDigit_of_naturalFrom? h
      rw [value digits] at h
      exact ⟨List.cons_ne_nil d ds, digits, Option.some.inj h⟩
    · rintro ⟨-, digits, rfl⟩
      exact value digits

/-- A number below a bound is read off its numerals, and off nothing else. -/
theorem unsigned?_eq_some_iff {bound n : Nat} {cs : List Char} :
    unsigned? bound cs = some n ↔ Numeral cs n ∧ n < bound := by
  have below {m : Option Nat} : m.filter (· < bound) = some n ↔ m = some n ∧ n < bound := by
    rw [Option.filter_eq_some_iff, decide_eq_true_iff]
  unfold unsigned? Numeral
  split
  · rename_i rest
    rw [below, natural?_eq_some_iff]
    constructor
    · rintro ⟨number, small⟩
      exact ⟨⟨rest, .inr rfl, number⟩, small⟩
    · rintro ⟨⟨ds, rfl | same, nonempty, digits, value⟩, small⟩
      · exact absurd (digits '+' List.mem_cons_self) (by decide)
      · obtain ⟨-, rfl⟩ := List.cons.inj same
        exact ⟨⟨nonempty, digits, value⟩, small⟩
  · rename_i other
    rw [below, natural?_eq_some_iff]
    constructor
    · rintro ⟨number, small⟩
      exact ⟨⟨cs, .inl rfl, number⟩, small⟩
    · rintro ⟨⟨ds, rfl | rfl, number⟩, small⟩
      · exact ⟨number, small⟩
      · exact absurd rfl (other ds)

end Itinerary.Text
