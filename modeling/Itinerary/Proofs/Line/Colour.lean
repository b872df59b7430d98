import Itinerary.Line.Style
import Mathlib.Data.List.Forall2
import Mathlib.Data.Nat.Digits.Lemmas

/-!
# Which texts are colours

A colour is spelled by a number sign and six or eight hexadecimal digits in either case. Six digits
are the three components of an opaque colour, eight are the whole word. The digits are read as a
number first and counted afterwards, and numbers may have a plus sign in front of them. The plus
sign is counted as well, so it takes the place of one digit.

So the texts that are read are those that spell a colour and those with a plus sign where the first
digit should be (`Style.colour?_spelled`); no other sign, blank or mark is accepted, and no digits
are left out or added, zeros in front included.
-/

namespace Itinerary

/-! ## Hexadecimal digits -/

namespace Text.Hex

variable {c : Char} {v n : Nat} {ds : List Char}

/-- A digit of some value, in either case. -/
def IsDigit (c : Char) (v : Nat) : Prop := v < 16 ∧ (c = digit v ∨ c = (digit v).toUpper)

instance (c : Char) (v : Nat) : Decidable (IsDigit c v) :=
  inferInstanceAs (Decidable (v < 16 ∧ (c = digit v ∨ c = (digit v).toUpper)))

/-- Digits, the highest first, and the number that they stand for. -/
def Numeral (ds : List Char) (n : Nat) : Prop :=
  ∃ values, List.Forall₂ IsDigit ds values ∧ Nat.ofDigits 16 values.reverse = n

/-- The characters with a value are the digits, in either case. -/
theorem value?_eq_some_iff : value? c = some v ↔ IsDigit c v := by
  constructor
  · intro read
    have all : ∀ n < 103, ∀ v ∈ value? (Char.ofNat n), IsDigit (Char.ofNat n) v := by decide
    have small : c.toNat < 103 := by
      unfold value? at read
      simp only at read
      split at read
      · omega
      · split at read
        · omega
        · split at read
          · omega
          · cases read
    have digit := all c.toNat small v
    rw [Char.ofNat_toNat] at digit
    exact digit read
  · rintro ⟨small, rfl | rfl⟩
    · exact value?_digit small
    · have all : ∀ v < 16, value? (digit v).toUpper = some v := by decide
      exact all v small

/-- Reading digits one after the other is reading the value of each and putting the values together.
-/
theorem foldlM_value? :
    ds.foldlM (fun n c => (value? c).map (n * 16 + ·)) n = some v ↔
      ∃ values, List.Forall₂ IsDigit ds values ∧ values.foldl (fun n v => n * 16 + v) n = v := by
  induction ds generalizing n with
  | nil =>
    rw [List.foldlM_nil]
    constructor
    · rintro ⟨⟩
      exact ⟨[], .nil, rfl⟩
    · rintro ⟨_, ⟨⟩, rfl⟩
      rfl
  | cons c ds ih =>
    rw [List.foldlM_cons, Option.bind_eq_bind, Option.bind_eq_some_iff]
    simp only [Option.map_eq_some_iff, value?_eq_some_iff, ih]
    constructor
    · rintro ⟨_, ⟨v, digit, rfl⟩, values, digits, rfl⟩
      exact ⟨v :: values, .cons digit digits, rfl⟩
    · rintro ⟨_, digit | ⟨digit, digits⟩, rfl⟩
      exact ⟨_, ⟨_, digit, rfl⟩, _, digits, rfl⟩

/-- Digits from the highest to the lowest, as a sum from the lowest to the highest. -/
theorem foldl_eq_ofDigits (values : List Nat) :
    values.foldl (fun n v => n * 16 + v) 0 = Nat.ofDigits 16 values.reverse := by
  rw [Nat.ofDigits_eq_foldr, List.foldr_reverse]
  congr 1
  funext n v
  rw [Nat.mul_comm, Nat.add_comm, Nat.cast_id]

/-- So many digits stand for numbers below the power of sixteen. -/
theorem Numeral.lt (numeral : Numeral ds n) : n < 16 ^ ds.length := by
  obtain ⟨values, digits, rfl⟩ := numeral
  have small : ∀ v ∈ values, v < 16 := by
    induction digits with
    | nil => exact fun v mem => absurd mem List.not_mem_nil
    | cons digit _ ih => exact List.forall_mem_cons.2 ⟨digit.1, ih⟩
  have bound := Nat.ofDigits_lt_base_pow_length (by decide : 1 < 16)
    fun v mem => small v (List.mem_reverse.1 mem)
  rwa [List.length_reverse, ← digits.length_eq] at bound

/-- A plus sign is no digit. -/
theorem not_numeral_plus : ¬ Numeral ('+' :: ds) n := by
  rintro ⟨_, _ | ⟨⟨small, spelled⟩, -⟩, -⟩
  have other : ∀ v < 16, ¬ ('+' = digit v ∨ '+' = (digit v).toUpper) := by decide
  exact other _ small spelled

end Text.Hex

/-! ## Colours -/

namespace Style

open Text

variable {cs ds : List Char} {n : Nat} {text : String} {colour : UInt32}

/-- A number is read from one digit or more, and from nothing else. -/
theorem hexNumber?_eq_some_iff : hexNumber? ds = some n ↔ ds ≠ [] ∧ Hex.Numeral ds n := by
  cases ds with
  | nil => exact ⟨nofun, fun ⟨nonempty, _⟩ => absurd rfl nonempty⟩
  | cons d ds =>
    unfold hexNumber? Hex.Numeral
    rw [Hex.foldlM_value?]
    simp only [Hex.foldl_eq_ofDigits]
    exact (and_iff_right (List.cons_ne_nil d ds)).symm

/-- What is read as a number is digits, at least one, behind a plus sign or not. -/
theorem signedHex?_eq_some_iff :
    signedHex? cs = some n ↔
      ∃ sign ds, (sign = [] ∨ sign = ['+']) ∧ cs = sign ++ ds ∧ ds ≠ [] ∧ Hex.Numeral ds n := by
  unfold signedHex?
  split
  · rename_i rest
    rw [hexNumber?_eq_some_iff]
    constructor
    · intro number
      exact ⟨['+'], rest, .inr rfl, rfl, number⟩
    · rintro ⟨_, ds, rfl | rfl, same, nonempty, numeral⟩
      · rw [List.nil_append] at same
        subst same
        exact absurd numeral Hex.not_numeral_plus
      · obtain ⟨-, rfl⟩ := List.cons.inj same
        exact ⟨nonempty, numeral⟩
  · rename_i other
    rw [hexNumber?_eq_some_iff]
    constructor
    · intro number
      exact ⟨[], cs, .inl rfl, rfl, number⟩
    · rintro ⟨_, ds, rfl | rfl, same, number⟩
      · rw [List.nil_append] at same
        subst same
        exact number
      · exact absurd same (other ds)

/-- A number sign, the sign given and hexadecimal digits that are six or eight together with the
sign: the components of an opaque colour or the whole word of one. -/
def Spells (sign : List Char) (text : String) (colour : UInt32) : Prop :=
  ∃ ds n, text.toList = '#' :: (sign ++ ds) ∧ Hex.Numeral ds n ∧
    (sign.length + ds.length = 6 ∧ colour.toNat = 0xFF000000 + n ∨
      sign.length + ds.length = 8 ∧ colour.toNat = n)

/-- Three components below an alpha of 255. -/
theorem toNat_opaque (small : n < 16 ^ 6) :
    (0xFF000000 ||| UInt32.ofNat n).toNat = 0xFF000000 + n := by
  have fits : n % 2 ^ 32 = n := Nat.mod_eq_of_lt (by omega)
  have apart := Nat.two_pow_add_eq_or_of_lt (i := 24) (b := n) (by omega) 0xFF
  rw [UInt32.toNat_or, UInt32.toNat_ofNat', fits]
  exact apart.symm

/-- Digits that are counted as `length` characters are a colour where that is six or eight. -/
theorem word_eq_some_iff {length : Nat} (numeral : Hex.Numeral ds n) (le : ds.length ≤ length) :
    (if length = 6 then some (0xFF000000 ||| UInt32.ofNat n)
      else if length = 8 then some (UInt32.ofNat n) else none) = some colour ↔
      length = 6 ∧ colour.toNat = 0xFF000000 + n ∨ length = 8 ∧ colour.toNat = n := by
  have small {k : Nat} (le : ds.length ≤ k) : n < 16 ^ k :=
    numeral.lt.trans_le (Nat.pow_le_pow_right (by decide) le)
  split
  · rename_i six
    have value := toNat_opaque (small (six ▸ le))
    rw [Option.some.injEq, ← UInt32.toNat_inj, value]
    omega
  · split
    · rename_i eight
      have value : (UInt32.ofNat n).toNat = n := UInt32.toNat_ofNat_of_lt' (small (eight ▸ le))
      rw [Option.some.injEq, ← UInt32.toNat_inj, value]
      omega
    · rename_i six eight
      simp [six, eight]

/-- A plus sign is no digit, so with one in front nothing is spelled by the rule. -/
theorem not_spells_of_plus {cs : List Char} (plus : text.toList = '#' :: '+' :: cs) :
    ¬ Spells [] text colour := by
  rintro ⟨ds, n, plain, numeral, -⟩
  rw [plus, List.nil_append] at plain
  obtain ⟨-, rfl⟩ := List.cons.inj plain
  exact Hex.not_numeral_plus numeral

/-- A colour is read where a text spells it, possibly with a plus sign for its first digit. -/
theorem colour?_eq_some_iff :
    colour? text = some colour ↔
      ∃ sign, (sign = [] ∨ sign = ['+']) ∧ Spells sign text colour := by
  have le (sign ds : List Char) : ds.length ≤ (sign ++ ds).length :=
    (List.sublist_append_right sign ds).length_le
  unfold colour?
  split
  · rename_i digits shape
    constructor
    · intro read
      split at read
      · rename_i n number
        obtain ⟨sign, ds, either, rfl, -, numeral⟩ := signedHex?_eq_some_iff.1 number
        have word := (word_eq_some_iff numeral (le sign ds)).1 read
        rw [List.length_append] at word
        exact ⟨sign, either, ds, n, shape, numeral, word⟩
      · cases read
    · rintro ⟨sign, either, ds, n, same, numeral, word⟩
      rw [shape] at same
      obtain ⟨-, rfl⟩ := List.cons.inj same
      -- A sign alone is too short for a colour.
      have nonempty : ds ≠ [] := by
        rintro rfl
        rcases either with rfl | rfl <;> simp at word
      have number : signedHex? (sign ++ ds) = some n :=
        signedHex?_eq_some_iff.2 ⟨sign, ds, either, rfl, nonempty, numeral⟩
      rw [← List.length_append] at word
      rw [number]
      exact (word_eq_some_iff numeral (le sign ds)).2 word
  · rename_i other
    constructor
    · exact nofun
    · rintro ⟨sign, -, ds, n, shape, -⟩
      exact absurd shape (other _)

/-- The texts that are read are those that spell a colour and those that spell one with a plus sign
in place of a digit; so digits alone are read where the plus sign spells no colour. -/
theorem colour?_spelled (text : String) :
    (∀ colour, colour? text = some colour ↔ Spells [] text colour ∨ Spells ['+'] text colour) ∧
      ((∀ colour, colour? text = some colour ↔ Spells [] text colour) ↔
        ¬ ∃ colour, Spells ['+'] text colour) := by
  have read (colour : UInt32) :
      colour? text = some colour ↔ Spells [] text colour ∨ Spells ['+'] text colour := by
    rw [colour?_eq_some_iff]
    simp only [or_and_right, exists_or, exists_eq_left]
  refine ⟨read, ?_⟩
  constructor
  · rintro plain ⟨colour, ds, n, shape, number⟩
    have plus : Spells ['+'] text colour := ⟨ds, n, shape, number⟩
    exact not_spells_of_plus shape ((plain colour).1 ((read colour).2 (.inr plus)))
  · intro none colour
    rw [read]
    exact or_iff_left fun plus => none ⟨colour, plus⟩

/-- A plus sign and five digits are read as a colour that no six digits spell so. -/
theorem colour?_plus :
    colour? "#+FFFFF" = some 0xFF0FFFFF ∧ ¬ ∃ colour, Spells [] "#+FFFFF" colour := by
  refine ⟨by decide, ?_⟩
  rintro ⟨colour, plain⟩
  exact not_spells_of_plus rfl plain

end Style

end Itinerary
