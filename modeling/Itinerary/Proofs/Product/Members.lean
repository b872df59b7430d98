import Itinerary.Product
import Mathlib.Data.Finset.Card
import Mathlib.Data.Fintype.Defs

/-!
# Sets of products

A set of products is ten bits, and everything that is asked of it goes by these bits. Each operation
is settled here by what it does to one member, and a set is known by its members
(`ProductSet.eq_of_contains`).

However a set is built, it answers as the finite set of products that is built in the same way
(`ProductSet.Built.agrees`): whether a product is a member, which ones are and in which order, their
codes and their number, and whether there are any. So does the question whether one set is within
another one (`ProductSet.Built.isSubset_iff`).
-/

namespace Itinerary

namespace Product

instance : Fintype Product := ⟨all.toFinset, fun p => List.mem_toFinset.2 (mem_all p)⟩

theorem nodup_all : all.Nodup := by decide

theorem exists_index_eq (i : Fin 10) : ∃ p : Product, p.index = i := by
  have all : ∀ i : Fin 10, ∃ p ∈ Product.all, p.index = i := by decide
  obtain ⟨p, -, same⟩ := all i
  exact ⟨p, same⟩

end Product

namespace ProductSet

variable {s t : ProductSet} {p : Product} {m n : Finset Product}

/-! ## Members -/

/-- A set is known by its members. -/
theorem eq_of_contains (same : ∀ p, s.contains p = t.contains p) : s = t := by
  have bits : s.bits = t.bits := by
    refine BitVec.eq_of_getElem_eq fun i inside => ?_
    obtain ⟨p, place⟩ := Product.exists_index_eq ⟨i, inside⟩
    have here := same p
    rw [contains, contains, place] at here
    exact here
  cases s
  exact congrArg ProductSet.mk bits

theorem eq_of_mem (same : ∀ p, p ∈ s ↔ p ∈ t) : s = t :=
  eq_of_contains fun p => Bool.eq_iff_iff.2 (same p)

theorem contains_empty (p : Product) : empty.contains p = false := by cases p <;> rfl

theorem contains_full (p : Product) : full.contains p = true := by cases p <;> rfl

/-- The set of one product holds no other. -/
theorem getElem_bit (p q : Product) : (bit p)[q.index.val] = decide (q = p) := by
  rw [bit, BitVec.getElem_twoPow]
  by_cases same : q = p
  · subst same
    simp only [decide_true]
  · have apart : q.index ≠ p.index := fun place => same (Product.index_injective place)
    simp only [same, decide_false, decide_eq_false_iff_not]
    exact fun place => apart (Fin.ext place)

/-- A product that is put in is in the set, and the others are where they were. -/
theorem contains_insert (s : ProductSet) (p q : Product) :
    (s.insert p).contains q = (s.contains q || decide (q = p)) := by
  show (s.bits ||| bit p)[q.index.val] = _
  rw [BitVec.getElem_or, getElem_bit]
  rfl

/-- A product that is taken out is no longer in the set, and the others are where they were. -/
theorem contains_erase (s : ProductSet) (p q : Product) :
    (s.erase p).contains q = (s.contains q && !decide (q = p)) := by
  show (s.bits &&& ~~~(bit p))[q.index.val] = _
  rw [BitVec.getElem_and, BitVec.getElem_not, getElem_bit]
  rfl

/-- A product is in the union if it is in one of the two sets. -/
theorem contains_union (s t : ProductSet) (q : Product) :
    (s.union t).contains q = (s.contains q || t.contains q) := by
  show (s.bits ||| t.bits)[q.index.val] = _
  rw [BitVec.getElem_or]
  rfl

/-- Putting in several products, one after the other. -/
theorem contains_foldl_insert (s : ProductSet) (ps : List Product) (q : Product) :
    (ps.foldl insert s).contains q = (s.contains q || decide (q ∈ ps)) := by
  induction ps generalizing s with
  | nil => simp only [List.foldl_nil, List.not_mem_nil, decide_false, Bool.or_false]
  | cons p ps ih =>
    rw [List.foldl_cons, ih, contains_insert, Bool.or_assoc]
    simp only [List.mem_cons, Bool.decide_or]

theorem mem_ofList_iff {ps : List Product} : p ∈ ofList ps ↔ p ∈ ps := by
  show (ps.foldl insert empty).contains p = true ↔ _
  rw [contains_foldl_insert, contains_empty, Bool.false_or, decide_eq_true_iff]

theorem mem_toList_iff : p ∈ s.toList ↔ p ∈ s := by
  rw [toList, List.mem_filter]
  exact and_iff_right (Product.mem_all p)

/-- A set is made of its members. -/
theorem ofList_toList (s : ProductSet) : ofList s.toList = s :=
  eq_of_mem fun _ => mem_ofList_iff.trans mem_toList_iff

theorem eq_empty_iff : s = empty ↔ ∀ p, p ∉ s := by
  constructor
  · rintro rfl p mem
    exact Bool.eq_false_iff.1 (contains_empty p) mem
  · intro none
    refine eq_of_contains fun p => ?_
    rw [contains_empty]
    exact Bool.eq_false_iff.2 (none p)

theorem isEmpty_iff : s.isEmpty = true ↔ ∀ p, p ∉ s := by
  rw [← eq_empty_iff, isEmpty, decide_eq_true_iff]
  constructor
  · intro none
    cases s
    exact congrArg ProductSet.mk none
  · rintro rfl
    rfl

theorem isEmpty_eq_false_iff : s.isEmpty = false ↔ ∃ p, p ∈ s := by
  rw [← Bool.not_eq_true, isEmpty_iff, not_forall_not]

/-- A set is within another one if the bits that the other one lacks are none. -/
theorem isSubset_iff : s.isSubset t = true ↔ ∀ p, p ∈ s → p ∈ t := by
  have lacking (p : Product) :
      (⟨s.bits &&& ~~~t.bits⟩ : ProductSet).contains p = (s.contains p && !t.contains p) := by
    show (s.bits &&& ~~~t.bits)[p.index.val] = _
    rw [BitVec.getElem_and, BitVec.getElem_not]
    rfl
  show (⟨s.bits &&& ~~~t.bits⟩ : ProductSet).isEmpty = true ↔ _
  rw [isEmpty_iff]
  refine forall_congr' fun p => ?_
  show ¬ (⟨s.bits &&& ~~~t.bits⟩ : ProductSet).contains p = true ↔
    (s.contains p = true → t.contains p = true)
  rw [lacking]
  cases s.contains p <;> cases t.contains p <;> decide

/-- Counting set bits from the lowest one upward counts the places where a bit is set. -/
theorem cpopNatRec_eq_countP {w : Nat} (x : BitVec w) (k : Nat) :
    x.cpopNatRec k 0 = (List.range k).countP x.getLsbD := by
  induction k with
  | zero => rfl
  | succ k ih =>
    rw [BitVec.cpopNatRec_succ, BitVec.cpopNatRec_add, ih, List.range_succ, List.countP_append,
      List.countP_singleton]
    cases x.getLsbD k <;> rfl

/-- There are as many bits as members. -/
theorem size_eq_length (s : ProductSet) : s.size = s.toList.length := by
  have places : List.range 10 = Product.all.map fun p => p.index.val := by decide
  rw [size, BitVec.toNat_cpop, cpopNatRec_eq_countP, places, List.countP_map, toList,
    ← List.countP_eq_length_filter]
  rfl

/-! ## Built sets -/

/-- How a set of products may be built: operations in a row are a tree that grows on the left.
Adding to a set and making a set with one more member are the same here, as a set does not
change. -/
inductive Built where
  | empty
  | full
  | ofList (ps : List Product)
  | insert (b : Built) (p : Product)
  | erase (b : Built) (p : Product)
  | union (b c : Built)

namespace Built

/-- The set of bits that is built. -/
def set : Built → ProductSet
  | empty => .empty
  | full => .full
  | ofList ps => .ofList ps
  | insert b p => b.set.insert p
  | erase b p => b.set.erase p
  | union b c => b.set.union c.set

/-- The finite set of products that is built in the same way. -/
def members : Built → Finset Product
  | empty => ∅
  | full => .univ
  | ofList ps => ps.toFinset
  | insert b p => Insert.insert p b.members
  | erase b p => b.members.erase p
  | union b c => b.members ∪ c.members

/-- One operation at a time, the bits keep to the members. -/
theorem mem_set_iff (b : Built) (p : Product) : p ∈ b.set ↔ p ∈ b.members := by
  show b.set.contains p = true ↔ _
  induction b with
  | empty => exact iff_of_false (Bool.eq_false_iff.1 (contains_empty p)) (Finset.notMem_empty p)
  | full => exact iff_of_true (contains_full p) (Finset.mem_univ p)
  | ofList ps => exact mem_ofList_iff.trans List.mem_toFinset.symm
  | insert b q ih =>
    rw [set, contains_insert, Bool.or_eq_true, ih, decide_eq_true_iff, members,
      Finset.mem_insert, or_comm]
  | erase b q ih =>
    rw [set, contains_erase, Bool.and_eq_true, ih, Bool.not_eq_true', decide_eq_false_iff_not,
      members, Finset.mem_erase, and_comm]
  | union b c ihb ihc =>
    rw [set, contains_union, Bool.or_eq_true, ihb, ihc, members, Finset.mem_union]

end Built

/-- A set of bits answers every question as a finite set of products does. -/
structure Agrees (s : ProductSet) (m : Finset Product) : Prop where
  contains : ∀ p, s.contains p = decide (p ∈ m)
  toList : s.toList = Product.all.filter (· ∈ m)
  codes : s.codes = String.ofList ((Product.all.filter (· ∈ m)).map Product.code)
  size : s.size = m.card
  isEmpty : s.isEmpty = decide (m = ∅)

/-- A set agrees with a finite set of products as soon as the two have the same members. -/
theorem agrees_of_mem (same : ∀ p, p ∈ s ↔ p ∈ m) : s.Agrees m := by
  have contains (p : Product) : s.contains p = decide (p ∈ m) :=
    Bool.eq_iff_iff.2 ((same p).trans decide_eq_true_iff.symm)
  have listed : s.toList = Product.all.filter (· ∈ m) :=
    List.filter_congr fun p _ => contains p
  refine ⟨contains, listed, by rw [codes, listed], ?_, ?_⟩
  · have once : s.toList.Nodup := Product.nodup_all.filter _
    have whole : s.toList.toFinset = m := by
      ext p
      rw [List.mem_toFinset, mem_toList_iff, same]
    rw [size_eq_length, ← List.toFinset_card_of_nodup once, whole]
  · rw [Bool.eq_iff_iff, isEmpty_iff, decide_eq_true_iff, Finset.eq_empty_iff_forall_notMem]
    exact forall_congr' fun p => not_congr (same p)

/-- However a set is built, it answers as the finite set that is built in the same way. -/
theorem Built.agrees (b : Built) : b.set.Agrees b.members := agrees_of_mem b.mem_set_iff

/-- Of two sets that were built, one is part of the other just if their members are. -/
theorem Built.isSubset_iff (b c : Built) :
    b.set.isSubset c.set = true ↔ b.members ⊆ c.members := by
  rw [ProductSet.isSubset_iff, Finset.subset_iff]
  exact forall_congr' fun p => imp_congr (b.mem_set_iff p) (c.mem_set_iff p)

end ProductSet

end Itinerary
