import Itinerary.Text.Base64
import Mathlib.Data.List.Basic

/-!
# Base64 letters are exact

Reading accepts a text exactly when it is the text that writing produces, so every list of bytes has
one written form and every other text is refused (`ofText?_eq_some_iff`). Two layers make that up:
letters and groups of six bits correspond one to one (`mapM_value?_eq_some_iff`), and groups and
bytes do, for each of the three lengths that the last group of letters can have (`bytes?_sextets`,
`sextets_of_bytes?`). The second of these is where idle bits matter: they are zero in what is
written, and what is read with other ones is nothing.
-/

namespace Itinerary.Text.Base64

/-! ## Letters -/

theorem value?_letter {n : Nat} (h : n < 64) : value? (letter n) = some n := by
  have all : ∀ n < 64, value? (letter n) = some n := by decide
  exact all n h

/-- What has a value is a letter, and the letter of that value. -/
theorem letter_of_value? {c : Char} {n : Nat} (h : value? c = some n) :
    n < 64 ∧ letter n = c := by
  have back : Char.ofNat c.toNat = c := Char.ofNat_toNat c
  simp only [value?] at h
  split at h
  · rename_i upper
    obtain rfl := Option.some.inj h
    refine ⟨by omega, ?_⟩
    rw [letter, if_pos (by omega), Nat.sub_add_cancel upper.1, back]
  split at h
  · rename_i lower
    obtain rfl := Option.some.inj h
    refine ⟨by omega, ?_⟩
    rw [letter, if_neg (by omega), if_pos (by omega),
      show c.toNat - 71 + 71 = c.toNat by omega, back]
  split at h
  · rename_i digit
    obtain rfl := Option.some.inj h
    refine ⟨by omega, ?_⟩
    rw [letter, if_neg (by omega), if_neg (by omega), if_pos (by omega), Nat.add_sub_cancel, back]
  split at h
  · rename_i hyphen
    obtain rfl := Option.some.inj h
    exact ⟨by omega, hyphen.symm⟩
  split at h
  · rename_i underscore
    obtain rfl := Option.some.inj h
    exact ⟨by omega, underscore.symm⟩
  · contradiction

/-- Letters are read one by one, and none of them is read in two ways. -/
theorem mapM_value?_eq_some_iff {cs : List Char} {ns : List Nat} :
    cs.mapM value? = some ns ↔ (∀ n ∈ ns, n < 64) ∧ cs = ns.map letter := by
  induction cs generalizing ns with
  | nil =>
    constructor
    · intro h
      cases h
      simp
    · rintro ⟨-, h⟩
      rw [List.map_eq_nil_iff.1 h.symm]
      rfl
  | cons c cs ih =>
    rw [List.mapM_cons]
    constructor
    · intro h
      obtain ⟨n, hn, hrest⟩ := Option.bind_eq_some_iff.1 h
      obtain ⟨tail, htail, heq⟩ := Option.bind_eq_some_iff.1 hrest
      cases heq
      obtain ⟨small, rfl⟩ := letter_of_value? hn
      obtain ⟨smalls, rfl⟩ := ih.1 htail
      exact ⟨List.forall_mem_cons.2 ⟨small, smalls⟩, rfl⟩
    · rintro ⟨small, h⟩
      cases ns with
      | nil => contradiction
      | cons n tail =>
        obtain ⟨rfl, rfl⟩ := List.cons.inj h
        obtain ⟨hn, htail⟩ := List.forall_mem_cons.1 small
        rw [value?_letter hn, ih.2 ⟨htail, rfl⟩]
        rfl

/-! ## Groups of six bits -/

theorem sextets_lt (bytes : List UInt8) : ∀ n ∈ sextets bytes, n < 64 := by
  fun_induction sextets bytes with
  | case1 => simp
  | case2 a =>
    have := a.toNat_lt
    simp only [List.mem_cons, List.not_mem_nil, or_false, forall_eq_or_imp, forall_eq]
    omega
  | case3 a b =>
    have := a.toNat_lt
    have := b.toNat_lt
    simp only [List.mem_cons, List.not_mem_nil, or_false, forall_eq_or_imp, forall_eq]
    omega
  | case4 a b c rest ih =>
    have := a.toNat_lt
    have := b.toNat_lt
    have := c.toNat_lt
    simp only [List.mem_cons, forall_eq_or_imp]
    exact ⟨by omega, by omega, by omega, by omega, ih⟩

theorem ofNat_eq_of_eq_toNat {n : Nat} {b : UInt8} (h : n = b.toNat) : UInt8.ofNat n = b := by
  rw [h, UInt8.ofNat_toNat]

/-- Bytes are read back from their groups, whether the last one is full or not. -/
theorem bytes?_sextets (bytes : List UInt8) : bytes? (sextets bytes) = some bytes := by
  fun_induction sextets bytes with
  | case1 => rfl
  | case2 a =>
    have ha := a.toNat_lt
    rw [bytes?, if_pos (by omega), ofNat_eq_of_eq_toNat (b := a) (by omega)]
  | case3 a b =>
    have ha := a.toNat_lt
    have hb := b.toNat_lt
    rw [bytes?, if_pos (by omega), ofNat_eq_of_eq_toNat (b := a) (by omega),
      ofNat_eq_of_eq_toNat (b := b) (by omega)]
  | case4 a b c rest ih =>
    have ha := a.toNat_lt
    have hb := b.toNat_lt
    have hc := c.toNat_lt
    rw [bytes?, ih, ofNat_eq_of_eq_toNat (b := a) (by omega),
      ofNat_eq_of_eq_toNat (b := b) (by omega), ofNat_eq_of_eq_toNat (b := c) (by omega)]
    rfl

/-- Groups that stand for bytes are the groups of these bytes: the checks on idle bits leave no
second way to write them. -/
theorem sextets_of_bytes? {ns : List Nat} {bytes : List UInt8} (small : ∀ n ∈ ns, n < 64)
    (h : bytes? ns = some bytes) : ns = sextets bytes := by
  fun_induction bytes? ns generalizing bytes with
  | case1 => cases h; rfl
  | case2 => contradiction
  | case3 p q idle =>
    simp only [List.mem_cons, List.not_mem_nil, or_false, forall_eq_or_imp, forall_eq] at small
    obtain rfl := Option.some.inj h
    simp only [sextets, UInt8.toNat_ofNat', List.cons.injEq, and_true]
    omega
  | case4 => contradiction
  | case5 p q r idle =>
    simp only [List.mem_cons, List.not_mem_nil, or_false, forall_eq_or_imp, forall_eq] at small
    obtain rfl := Option.some.inj h
    simp only [sextets, UInt8.toNat_ofNat', List.cons.injEq, and_true]
    omega
  | case6 => contradiction
  | case7 p q r s rest ih =>
    simp only [List.mem_cons, forall_eq_or_imp] at small
    obtain ⟨out, hout, rfl⟩ := Option.map_eq_some_iff.1 h
    have tail := ih small.2.2.2.2 hout
    simp only [sextets, UInt8.toNat_ofNat', List.cons.injEq]
    refine ⟨?_, ?_, ?_, ?_, tail⟩ <;> omega

/-! ## Texts -/

/-- Reading gives some bytes just for the letters that are written for them. -/
theorem decode?_eq_some_iff {cs : List Char} {bytes : List UInt8} :
    decode? cs = some bytes ↔ cs = encode bytes := by
  rw [decode?, Option.bind_eq_some_iff]
  constructor
  · rintro ⟨ns, hns, hbytes⟩
    obtain ⟨small, rfl⟩ := mapM_value?_eq_some_iff.1 hns
    rw [encode, ← sextets_of_bytes? small hbytes]
  · rintro rfl
    exact ⟨sextets bytes, mapM_value?_eq_some_iff.2 ⟨sextets_lt bytes, rfl⟩,
      bytes?_sextets bytes⟩

/-- A text is read as some bytes exactly when it is the text of these bytes. -/
theorem ofText?_eq_some_iff {s : String} {bytes : List UInt8} :
    ofText? s = some bytes ↔ s = toText bytes := by
  rw [ofText?, decode?_eq_some_iff, toText, ← String.toList_inj, String.toList_ofList]

@[simp] theorem ofText?_toText (bytes : List UInt8) : ofText? (toText bytes) = some bytes :=
  ofText?_eq_some_iff.2 rfl

/-- A text is made of the letters of groups of six bits. -/
theorem exists_letter_of_mem_toText {bytes : List UInt8} {c : Char}
    (mem : c ∈ (toText bytes).toList) : ∃ n < 64, letter n = c := by
  rw [toText, String.toList_ofList] at mem
  obtain ⟨n, group, same⟩ := List.mem_map.1 mem
  exact ⟨n, sextets_lt bytes n group, same⟩

end Itinerary.Text.Base64
