import Itinerary.Proofs.Product.Members

/-!
# Codes of products

A text of codes is read as the set of the products whose codes occur in it
(`ProductSet.ofCodes_eq_ok_iff`), so neither order nor repetition matters, and two texts in a row
are read as the union of their sets (`ProductSet.ofCodes_append_eq_ok_iff`). A text with any other
character is refused at the first one (`ProductSet.ofCodes_eq_error_iff`). A set is written with
each code once and in a fixed order, and is read back from that (`ProductSet.ofCodes_codes`).
-/

namespace Itinerary

namespace Product

/-- The characters that are codes of products. -/
def IsCode (c : Char) : Prop := c ∈ "IRSUTBFCPE".toList

instance (c : Char) : Decidable (IsCode c) := inferInstanceAs (Decidable (c ∈ _))

theorem map_code_all : all.map code = "IRSUTBFCPE".toList := by decide

theorem code_injective : Function.Injective code := fun p q same => by
  have read := ofCode_code p
  rw [same, ofCode_code q] at read
  exact (Except.ok.inj read).symm

/-- The letters of products, and no other characters, are codes. -/
theorem isCode_iff {c : Char} : IsCode c ↔ ∃ p : Product, p.code = c := by
  rw [IsCode, ← map_code_all, List.mem_map]
  exact exists_congr fun p => and_iff_right (mem_all p)

/-- A character that is no code is named in the violation. -/
theorem ofCode_of_not_isCode {c : Char} (other : ¬ IsCode c) :
    ofCode c = .error (.unknownProductCode c) := by
  have none : all.find? (·.code = c) = none := by
    refine List.find?_eq_none.2 fun p _ same => other ?_
    exact isCode_iff.2 ⟨p, of_decide_eq_true same⟩
  rw [ofCode, none]

/-- Codes are those of a list of products. -/
theorem exists_map_code_of_isCode {cs : List Char} (codes : ∀ c ∈ cs, IsCode c) :
    ∃ ps : List Product, ps.map code = cs := by
  have range : cs ∈ Set.range (List.map code) := by
    rw [Set.range_list_map]
    exact fun c mem => isCode_iff.1 (codes c mem)
  exact range

/-- The letters of products are codes. -/
theorem isCode_of_mem_map_code {ps : List Product} {c : Char} (mem : c ∈ ps.map code) :
    IsCode c := by
  obtain ⟨p, -, same⟩ := List.mem_map.1 mem
  exact isCode_iff.2 ⟨p, same⟩

/-- A text is made of codes, or it has a first character that is none. -/
theorem codes_or_stray (cs : List Char) : (∃ ps : List Product, ps.map code = cs) ∨
    ∃ (ps : List Product) (c : Char) (rest : List Char),
      ps.map code ++ c :: rest = cs ∧ ¬ IsCode c := by
  induction cs with
  | nil => exact .inl ⟨[], rfl⟩
  | cons c cs ih =>
    by_cases legal : IsCode c
    · obtain ⟨p, rfl⟩ := isCode_iff.1 legal
      obtain ⟨ps, rfl⟩ | ⟨ps, d, rest, rfl, stray⟩ := ih
      · exact .inl ⟨p :: ps, rfl⟩
      · exact .inr ⟨p :: ps, d, rest, rfl, stray⟩
    · exact .inr ⟨[], c, cs, rfl, legal⟩

end Product

namespace ProductSet

open Product (IsCode)

variable {s t : ProductSet} {cs ds : List Char} {text other : String} {v : Violation}

/-- A text of codes stands for a set: nothing else is in it, and the members of the set are the
products whose codes are in it. -/
structure CodedBy (s : ProductSet) (cs : List Char) : Prop where
  codes : ∀ c ∈ cs, IsCode c
  members : ∀ p : Product, p ∈ s ↔ p.code ∈ cs

/-- The letters of some products code the set of them. -/
theorem codedBy_ofList (ps : List Product) : (ofList ps).CodedBy (ps.map Product.code) where
  codes _ mem := Product.isCode_of_mem_map_code mem
  members _ := mem_ofList_iff.trans (List.mem_map_of_injective Product.code_injective).symm

theorem CodedBy.unique (first : s.CodedBy cs) (second : t.CodedBy cs) : s = t :=
  eq_of_mem fun p => (first.members p).trans (second.members p).symm

/-- Neither the order of the codes matters nor how often each of them occurs. -/
theorem CodedBy.congr (coded : s.CodedBy cs) (same : ∀ c, c ∈ cs ↔ c ∈ ds) : s.CodedBy ds where
  codes c mem := coded.codes c ((same c).2 mem)
  members p := (coded.members p).trans (same p.code)

/-- Letters one after the other code the union of the two sets. -/
theorem CodedBy.append (first : s.CodedBy cs) (second : t.CodedBy ds) :
    (s.union t).CodedBy (cs ++ ds) where
  codes := List.forall_mem_append.2 ⟨first.codes, second.codes⟩
  members p := by
    show (s.union t).contains p = true ↔ _
    rw [contains_union, Bool.or_eq_true, List.mem_append]
    exact or_congr (first.members p) (second.members p)

theorem exists_codedBy (codes : ∀ c ∈ cs, IsCode c) : ∃ s : ProductSet, s.CodedBy cs := by
  obtain ⟨ps, rfl⟩ := Product.exists_map_code_of_isCode codes
  exact ⟨ofList ps, codedBy_ofList ps⟩

/-! ## Reading codes -/

/-- The letters at the front put their products into the set. -/
theorem insertCodes_map_code_append (s : ProductSet) (ps : List Product) (rest : List Char) :
    insertCodes s (ps.map Product.code ++ rest) = insertCodes (ps.foldl insert s) rest := by
  induction ps generalizing s with
  | nil => rfl
  | cons p ps ih =>
    rw [List.map_cons, List.cons_append, insertCodes, Product.ofCode_code]
    exact ih (s.insert p)

/-- Letters of products alone are read as the set of these products. -/
theorem ofCodes_of_map_code {ps : List Product} (codes : ps.map Product.code = text.toList) :
    ofCodes text = .ok (ofList ps) := by
  rw [ofCodes, ← codes, ← List.append_nil (ps.map Product.code), insertCodes_map_code_append]
  rfl

/-- At the first stray character reading ends, and it is the one that is reported. -/
theorem ofCodes_of_stray {ps : List Product} {c : Char} {rest : List Char}
    (begins : ps.map Product.code ++ c :: rest = text.toList) (stray : ¬ IsCode c) :
    ofCodes text = .error (.unknownProductCode c) := by
  rw [ofCodes, ← begins, insertCodes_map_code_append, insertCodes,
    Product.ofCode_of_not_isCode stray]

/-- A text is read as the set that it stands for. -/
theorem ofCodes_eq_ok_iff : ofCodes text = .ok s ↔ s.CodedBy text.toList := by
  obtain ⟨ps, codes⟩ | ⟨ps, c, rest, begins, stray⟩ := Product.codes_or_stray text.toList
  · have coded := codes ▸ codedBy_ofList ps
    rw [ofCodes_of_map_code codes]
    constructor
    · rintro same
      exact Except.ok.inj same ▸ coded
    · intro other
      rw [coded.unique other]
  · rw [ofCodes_of_stray begins stray]
    refine iff_of_false nofun fun coded => stray (coded.codes c ?_)
    rw [← begins]
    exact List.mem_append_right _ List.mem_cons_self

/-- A text is refused at the first character that is no code. -/
theorem ofCodes_eq_error_iff : ofCodes text = .error v ↔
    ∃ before c rest, text.toList = before ++ c :: rest ∧ (∀ d ∈ before, IsCode d) ∧
      ¬ IsCode c ∧ v = .unknownProductCode c := by
  constructor
  · intro refused
    obtain ⟨ps, codes⟩ | ⟨ps, c, rest, begins, stray⟩ := Product.codes_or_stray text.toList
    · rw [ofCodes_of_map_code codes] at refused
      contradiction
    · rw [ofCodes_of_stray begins stray] at refused
      exact ⟨ps.map Product.code, c, rest, begins.symm,
        fun _ mem => Product.isCode_of_mem_map_code mem, stray, (Except.error.inj refused).symm⟩
  · rintro ⟨before, c, rest, begins, codes, stray, rfl⟩
    obtain ⟨ps, rfl⟩ := Product.exists_map_code_of_isCode codes
    exact ofCodes_of_stray begins.symm stray

/-- A text is read just if all its characters are codes. -/
theorem exists_ofCodes_iff : (∃ s, ofCodes text = .ok s) ↔ ∀ c ∈ text.toList, IsCode c := by
  constructor
  · rintro ⟨s, read⟩
    exact (ofCodes_eq_ok_iff.1 read).codes
  · intro codes
    obtain ⟨s, coded⟩ := exists_codedBy codes
    exact ⟨s, ofCodes_eq_ok_iff.2 coded⟩

/-- Two texts in a row stand for the union of the sets of both. -/
theorem ofCodes_append_eq_ok_iff : ofCodes (text ++ other) = .ok s ↔
    ∃ t u, ofCodes text = .ok t ∧ ofCodes other = .ok u ∧ s = t.union u := by
  simp only [ofCodes_eq_ok_iff, String.toList_append]
  constructor
  · intro coded
    obtain ⟨legal, legalOther⟩ := List.forall_mem_append.1 coded.codes
    obtain ⟨t, first⟩ := exists_codedBy legal
    obtain ⟨u, second⟩ := exists_codedBy legalOther
    exact ⟨t, u, first, second, coded.unique (first.append second)⟩
  · rintro ⟨t, u, first, second, rfl⟩
    exact first.append second

/-! ## Writing codes -/

/-- The codes of a set stand for that set. -/
theorem ofCodes_codes (s : ProductSet) : ofCodes s.codes = .ok s := by
  have written : s.toList.map Product.code = s.codes.toList := String.toList_ofList.symm
  rw [ofCodes_of_map_code written, ofList_toList]

theorem size_eq_length_codes (s : ProductSet) : s.size = s.codes.length := by
  rw [size_eq_length, codes, String.length_ofList, List.length_map]

/-- What is written keeps those of all codes that were read, in the fixed order. -/
theorem CodedBy.codes_eq (coded : s.CodedBy cs) :
    s.codes = String.ofList ("IRSUTBFCPE".toList.filter (· ∈ cs)) := by
  rw [ProductSet.codes, toList, ← Product.map_code_all, List.filter_map]
  congr 2
  refine List.filter_congr fun p _ => ?_
  exact Bool.eq_iff_iff.2 ((coded.members p).trans decide_eq_true_iff.symm)

/-- What it means to read a text of codes, for every text. -/
structure ReadsCodes (text : String) : Prop where
  accepts : (∃ s, ofCodes text = .ok s) ↔ ∀ c ∈ text.toList, IsCode c
  refuses : ∀ v, ofCodes text = .error v ↔
    ∃ before c rest, text.toList = before ++ c :: rest ∧ (∀ d ∈ before, IsCode d) ∧
      ¬ IsCode c ∧ v = .unknownProductCode c
  members : ∀ s, ofCodes text = .ok s → ∀ p : Product, p ∈ s ↔ p.code ∈ text.toList
  codes : ∀ s, ofCodes text = .ok s →
    s.codes = String.ofList ("IRSUTBFCPE".toList.filter (· ∈ text.toList))
  again : ∀ s, ofCodes text = .ok s → ofCodes s.codes = .ok s ∧ s.size = s.codes.length

/-- What can be said about reading codes, put together for one text. -/
theorem readsCodes (text : String) : ReadsCodes text where
  accepts := exists_ofCodes_iff
  refuses _ := ofCodes_eq_error_iff
  members _ read := (ofCodes_eq_ok_iff.1 read).members
  codes _ read := (ofCodes_eq_ok_iff.1 read).codes_eq
  again s _ := ⟨ofCodes_codes s, size_eq_length_codes s⟩

/-- Texts of codes stand for sets: they are read as such whatever the order and the repetition, and
in a row as unions. Sets that are built from one another answer every question as finite sets that
are built in the same way. -/
theorem codes_denote_sets :
    (∀ text, ReadsCodes text) ∧
    (∀ text other : String, (∀ c, c ∈ text.toList ↔ c ∈ other.toList) →
      ∀ s, ofCodes text = .ok s ↔ ofCodes other = .ok s) ∧
    (∀ text other s, ofCodes (text ++ other) = .ok s ↔
      ∃ t u, ofCodes text = .ok t ∧ ofCodes other = .ok u ∧ s = t.union u) ∧
    (∀ b : Built, b.set.Agrees b.members) ∧
    ∀ b c : Built, b.set.isSubset c.set = true ↔ b.members ⊆ c.members := by
  refine ⟨readsCodes, ?_, ?_, Built.agrees, Built.isSubset_iff⟩
  · intro text other same s
    rw [ofCodes_eq_ok_iff, ofCodes_eq_ok_iff]
    exact ⟨fun coded => coded.congr same, fun coded => coded.congr fun c => (same c).symm⟩
  · intro text other s
    exact ofCodes_append_eq_ok_iff

end ProductSet

end Itinerary
