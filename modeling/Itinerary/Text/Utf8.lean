/-!
# Bytes as text

UTF-8 read leniently: what is no UTF-8 becomes a mark, one for every longest run of bytes that
starts a character and does not finish it. Reading therefore never fails. The usual mark is the
replacement character (`decode`), which may also stand in the text by itself.
-/

namespace Itinerary.Text.Utf8

/-- The bounds of each byte that has to follow the first one, and the bits that the first byte
brings along. There is no answer for a byte that starts no character of several bytes. -/
def expected? (first : Nat) : Option (Nat × List (Nat × Nat)) :=
  let any := (0x80, 0xBF)
  if 0xC2 ≤ first ∧ first ≤ 0xDF then some (first % 32, [any])
  else if first = 0xE0 then some (0, [(0xA0, 0xBF), any])
  else if first = 0xED then some (13, [(0x80, 0x9F), any])
  else if 0xE1 ≤ first ∧ first ≤ 0xEF then some (first % 16, [any, any])
  else if first = 0xF0 then some (0, [(0x90, 0xBF), any, any])
  else if 0xF1 ≤ first ∧ first ≤ 0xF3 then some (first % 8, [any, any, any])
  else if first = 0xF4 then some (4, [(0x80, 0x8F), any, any])
  else none

/-- Takes the bytes that a character still needs: the code point, if all of them are there, and the
bytes that were not taken. -/
def follow : List (Nat × Nat) → Nat → List UInt8 → Option Nat × List UInt8
  | [], n, rest => (some n, rest)
  | _ :: _, _, [] => (none, [])
  | (low, high) :: more, n, b :: rest =>
    if low ≤ b.toNat ∧ b.toNat ≤ high then follow more (n * 64 + b.toNat % 64) rest
    else (none, b :: rest)

/-- Following bytes are only ever used up. -/
theorem follow_length (needed : List (Nat × Nat)) (n : Nat) (bytes : List UInt8) :
    (follow needed n bytes).2.length ≤ bytes.length := by
  induction needed generalizing n bytes with
  | nil => exact Nat.le_refl _
  | cons bounds more ih =>
    cases bytes with
    | nil => exact Nat.le_refl _
    | cons b rest =>
      simp only [follow]
      split
      · exact Nat.le_succ_of_le (ih _ rest)
      · exact Nat.le_refl _

/-- The first character of some bytes and the bytes behind it. -/
def step (mark : Char) (b : UInt8) (rest : List UInt8) : Char × List UInt8 :=
  if b.toNat < 0x80 then (Char.ofNat b.toNat, rest)
  else
    match expected? b.toNat with
    | none => (mark, rest)
    | some (bits, needed) =>
      match follow needed bits rest with
      | (some n, after) => (Char.ofNat n, after)
      | (none, after) => (mark, after)

/-- A step of the decoding uses up no less than the byte that it starts with. -/
theorem step_length (mark : Char) (b : UInt8) (rest : List UInt8) :
    (step mark b rest).2.length ≤ rest.length := by
  unfold step
  split
  · exact Nat.le_refl _
  · split
    · exact Nat.le_refl _
    · rename_i bits needed _
      have := follow_length needed bits rest
      split <;> simp_all

/-- The characters of some bytes, with a mark for what is none. -/
def decodeMarking (mark : Char) : List UInt8 → List Char
  | [] => []
  | b :: rest => (step mark b rest).1 :: decodeMarking mark (step mark b rest).2
termination_by bytes => bytes.length
decreasing_by exact Nat.lt_succ_of_le (step_length mark b rest)

/-- The character that stands for what is no UTF-8. -/
def replacement : Char := '\uFFFD'

/-- The characters of some bytes. -/
def decode (bytes : List UInt8) : List Char := decodeMarking replacement bytes

end Itinerary.Text.Utf8
