import Mathlib.Data.List.Forall2
import Mathlib.Data.List.Nodup
import Mathlib.Order.Lattice

/-!
# Lists by rank, lists without repetition, lists item by item

An answer brings what it lists in order, and it leaves out what it has listed already.

Order goes by a rank and is stable: items of one rank stand as they were given (`StablySorted`).
That leaves no choice (`StablySorted.unique`), and a merge sort does it (`stablySorted_mergeSort`).
Repetition goes by a key, and of several items with one key the first stays. `firstOnes` says so by
what stands earlier in the list that is given; going through the list and looking at what was taken
so far comes to the same (`foldl_insert`). Two lists may also go side by side, each item related to
the one across from it; then what is the same for related items is the same for the lists
(`map_eq_of_forall₂`).
-/

namespace Itinerary

variable {α κ : Type}

/-! ## By rank -/

section Rank

variable [LinearOrder κ] {rank : α → κ} {before after other as bs : List α} {a b : α}

/-- A list brought in the order of a rank, where items of one rank stand as they stood before. -/
structure StablySorted (rank : α → κ) (before after : List α) : Prop where
  perm : after.Perm before
  ordered : after.Pairwise fun a b => rank a ≤ rank b
  stable : ∀ r, (after.filter fun a => rank a = r) = before.filter fun a => rank a = r

/-- The first item of an ordered list has the lowest rank. -/
theorem rank_head_le (ordered : (a :: as).Pairwise fun a b => rank a ≤ rank b)
    (mem : b ∈ a :: as) : rank a ≤ rank b := by
  rcases List.mem_cons.1 mem with rfl | mem
  · exact le_rfl
  · exact (List.pairwise_cons.1 ordered).1 b mem

/-- Lists with the same items of each rank have the same items. -/
theorem mem_iff_of_filter_rank
    (same : ∀ r, (as.filter fun a => rank a = r) = bs.filter fun a => rank a = r) :
    a ∈ as ↔ a ∈ bs := by
  have alike : a ∈ as.filter (rank · = rank a) ↔ a ∈ bs.filter (rank · = rank a) := by rw [same]
  simpa only [List.mem_filter, decide_true, and_true] using alike

/-- A list in order is known from its items of each rank. -/
theorem eq_of_filter_rank (ordered : as.Pairwise fun a b => rank a ≤ rank b)
    (ordered' : bs.Pairwise fun a b => rank a ≤ rank b)
    (same : ∀ r, (as.filter fun a => rank a = r) = bs.filter fun a => rank a = r) : as = bs := by
  induction as generalizing bs with
  | nil =>
    refine (List.eq_nil_iff_forall_not_mem.2 fun b mem => ?_).symm
    exact nomatch (mem_iff_of_filter_rank same).2 mem
  | cons a as ih =>
    cases bs with
    | nil => exact nomatch (mem_iff_of_filter_rank same).1 List.mem_cons_self
    | cons b bs =>
      have tie : rank a = rank b := le_antisymm
        (rank_head_le ordered ((mem_iff_of_filter_rank same).2 List.mem_cons_self))
        (rank_head_le ordered' ((mem_iff_of_filter_rank same).1 List.mem_cons_self))
      have heads := same (rank a)
      simp only [List.filter_cons, tie, decide_true, if_true] at heads
      obtain ⟨rfl, tails⟩ := List.cons.inj heads
      rw [ih ordered.of_cons ordered'.of_cons fun r => ?_]
      have all := same r
      simp only [List.filter_cons] at all
      split at all
      · exact (List.cons.inj all).2
      · exact all

/-- There is only one way to bring a list in order. -/
theorem StablySorted.unique (first : StablySorted rank before after)
    (second : StablySorted rank before other) : after = other :=
  eq_of_filter_rank first.ordered second.ordered fun r => (first.stable r).trans
    (second.stable r).symm

/-- A merge sort brings a list in order and is stable. -/
theorem stablySorted_mergeSort {le : α → α → Bool}
    (decides : ∀ a b, le a b = true ↔ rank a ≤ rank b) (list : List α) :
    StablySorted rank list (list.mergeSort le) := by
  have trans (a b c : α) (first : le a b = true) (second : le b c = true) : le a c = true :=
    (decides a c).2 (le_trans ((decides a b).1 first) ((decides b c).1 second))
  have total (a b : α) : (le a b || le b a) = true := by
    rw [Bool.or_eq_true, decides, decides]
    exact le_total _ _
  have perm := List.mergeSort_perm list le
  refine ⟨perm, (List.pairwise_mergeSort trans total list).imp (decides _ _).1, fun r => ?_⟩
  -- The items of one rank are in order as they stand, so the sort keeps them as a sublist.
  have tied : (list.filter fun a => rank a = r).Pairwise fun a b => le a b = true := by
    refine List.Pairwise.imp_of_mem (R := fun _ _ => True) (fun left right _ => ?_)
      (List.pairwise_of_forall fun _ _ => trivial)
    have left := of_decide_eq_true (List.mem_filter.1 left).2
    have right := of_decide_eq_true (List.mem_filter.1 right).2
    exact (decides _ _).2 (le_of_eq (left.trans right.symm))
  have kept := (List.sublist_mergeSort trans total tied List.filter_sublist).filter
    fun a => rank a = r
  rw [List.filter_filter] at kept
  simp only [Bool.and_self] at kept
  exact (kept.eq_of_length (perm.filter _).length_eq.symm).symm

/-- What held between items in the order in which they were given still holds between those of one
rank. -/
theorem StablySorted.pairwise {R : α → α → Prop} (sorted : StablySorted rank before after)
    (given : before.Pairwise R) :
    after.Pairwise fun a b => rank a < rank b ∨ rank a = rank b ∧ R a b := by
  refine List.pairwise_iff_forall_sublist.2 fun {a b} both => ?_
  have upTo : rank a ≤ rank b := List.pairwise_iff_forall_sublist.1 sorted.ordered both
  obtain earlier | tied := upTo.lt_or_eq
  · exact .inl earlier
  · refine .inr ⟨tied, ?_⟩
    have kept := both.filter fun c => rank c = rank b
    simp only [List.filter_cons, tied, decide_true, if_true, List.filter_nil] at kept
    rw [sorted.stable] at kept
    exact List.pairwise_iff_forall_sublist.1 (given.sublist List.filter_sublist) kept

end Rank

/-! ## Without repetition -/

section Repetition

variable [DecidableEq κ] {key : α → κ} {known others : List κ} {list : List α} {a : α}

/-- The items of a list whose key is neither known before nor comes up earlier in the list. -/
def firstOnes (key : α → κ) (known : List κ) (list : List α) : List α :=
  (list.zipIdx.filter fun (a, i) => key a ∉ known ++ (list.take i).map key).map Prod.fst

/-- Of the keys that are known before, only what they are matters. -/
theorem firstOnes_congr (same : ∀ k, k ∈ known ↔ k ∈ others) :
    firstOnes key known list = firstOnes key others list := by
  simp only [firstOnes, List.mem_append, same]

/-- An item stays unless its key is known, and it makes its key known to those behind it. -/
theorem firstOnes_cons : firstOnes key known (a :: list) =
    if key a ∈ known then firstOnes key known list
    else a :: firstOnes key (known ++ [key a]) list := by
  have behind : (((list.zipIdx 1).filter fun (b, i) =>
      key b ∉ known ++ ((a :: list).take i).map key).map Prod.fst) =
      firstOnes key (known ++ [key a]) list := by
    rw [firstOnes, List.zipIdx_succ, List.filter_map, List.map_map]
    simp only [Function.comp_def, List.take_succ_cons, List.map_cons, List.append_assoc,
      List.singleton_append]
  rw [firstOnes, List.zipIdx_cons, List.filter_cons]
  simp only [List.take_zero, List.map_nil, List.append_nil, decide_eq_true_eq]
  by_cases here : key a ∈ known
  · have same (k : κ) : k ∈ known ++ [key a] ↔ k ∈ known := by
      rw [List.mem_append, List.mem_singleton]
      exact or_iff_left_of_imp fun own => own ▸ here
    rw [if_neg (not_not.2 here), if_pos here, behind, firstOnes_congr same]
  · rw [if_pos here, if_neg here, List.map_cons, behind]

theorem firstOnes_sublist : (firstOnes key known list).Sublist list := by
  have sub := (List.filter_sublist (p := fun (a, i) => key a ∉ known ++ (list.take i).map key)
    (l := list.zipIdx)).map Prod.fst
  rwa [List.zipIdx_map_fst] at sub

/-- What has a known key is left out. -/
theorem key_not_mem_of_mem_firstOnes (mem : a ∈ firstOnes key known list) : key a ∉ known := by
  obtain ⟨⟨b, i⟩, kept, rfl⟩ := List.mem_map.1 mem
  exact fun here => of_decide_eq_true (List.mem_filter.1 kept).2 (List.mem_append_left _ here)

/-- Nothing is listed twice. -/
theorem nodup_map_firstOnes (key : α → κ) (known : List κ) (list : List α) :
    ((firstOnes key known list).map key).Nodup := by
  induction list generalizing known with
  | nil => exact List.nodup_nil
  | cons a list ih =>
    rw [firstOnes_cons]
    split
    · exact ih known
    · rw [List.map_cons, List.nodup_cons]
      refine ⟨fun mem => ?_, ih _⟩
      obtain ⟨b, later, same⟩ := List.mem_map.1 mem
      refine key_not_mem_of_mem_firstOnes later ?_
      rw [same]
      exact List.mem_append_right _ (List.mem_singleton_self _)

/-- What is left out has a key that is known, or one that comes up earlier. -/
theorem mem_map_firstOnes {k : κ} :
    k ∈ (firstOnes key known list).map key ↔ k ∈ list.map key ∧ k ∉ known := by
  induction list generalizing known with
  | nil => exact ⟨nofun, fun ⟨mem, _⟩ => mem⟩
  | cons a list ih =>
    rw [firstOnes_cons, List.map_cons, List.mem_cons]
    by_cases here : key a ∈ known
    · rw [if_pos here, ih]
      constructor
      · rintro ⟨later, unknown⟩
        exact ⟨.inr later, unknown⟩
      · rintro ⟨rfl | later, unknown⟩
        · exact absurd here unknown
        · exact ⟨later, unknown⟩
    · rw [if_neg here, List.map_cons, List.mem_cons, ih, List.mem_append, List.mem_singleton]
      by_cases first : k = key a
      · subst first
        exact iff_of_true (.inl rfl) ⟨.inl rfl, here⟩
      · simp only [first, false_or, or_false]

/-- Where items with one key are one item, no item is lost. -/
theorem mem_firstOnes_iff (tells : ∀ a ∈ list, ∀ b ∈ list, key a = key b → a = b) :
    a ∈ firstOnes key [] list ↔ a ∈ list := by
  refine ⟨fun mem => firstOnes_sublist.subset mem, fun mem => ?_⟩
  have kept : key a ∈ (firstOnes key [] list).map key :=
    mem_map_firstOnes.2 ⟨List.mem_map_of_mem mem, List.not_mem_nil⟩
  obtain ⟨b, there, same⟩ := List.mem_map.1 kept
  rwa [← tells b (firstOnes_sublist.subset there) a mem same]

/-- Going through a list and taking what is not taken yet gives the first ones. -/
theorem foldl_insert {same : α → α → Bool} (decides : ∀ a b, same a b = true ↔ key a = key b)
    (taken list : List α) :
    list.foldl (fun taken a => if taken.any (same · a) then taken else taken ++ [a]) taken =
      taken ++ firstOnes key (taken.map key) list := by
  induction list generalizing taken with
  | nil => exact (List.append_nil taken).symm
  | cons a list ih =>
    have known : (taken.any (same · a)) = true ↔ key a ∈ taken.map key := by
      simp only [List.any_eq_true, decides, List.mem_map]
    rw [List.foldl_cons, ih, firstOnes_cons]
    by_cases here : key a ∈ taken.map key
    · rw [if_pos (known.2 here), if_pos here]
    · rw [if_neg (mt known.1 here), if_neg here, List.map_append, List.map_singleton,
        List.append_assoc, List.singleton_append]

end Repetition

/-! ## Item by item -/

section Items

variable {β γ : Type} {R : α → β → Prop}

/-- What is the same for each two items that are related is the same for lists of them. -/
theorem map_eq_of_forall₂ {f : α → γ} {g : β → γ} (each : ∀ a b, R a b → f a = g b) {as : List α}
    {bs : List β} (related : List.Forall₂ R as bs) : as.map f = bs.map g := by
  have equal : List.Forall₂ Eq (as.map f) (bs.map g) :=
    List.rel_map (P := Eq) (fun a b => each a b) related
  rwa [List.forall₂_eq_eq_eq] at equal

/-- Two lists of items have the same parts just when what the parts tell holds of the items one by
one. -/
theorem map_eq_map_iff {f : α → γ} {g : β → γ} {as : List α} {bs : List β}
    (tells : ∀ a ∈ as, ∀ b ∈ bs, f a = g b ↔ R a b) :
    as.map f = bs.map g ↔ List.Forall₂ R as bs := by
  induction as generalizing bs with
  | nil =>
    cases bs with
    | nil => exact ⟨fun _ => .nil, fun _ => rfl⟩
    | cons b bs => exact ⟨nofun, nofun⟩
  | cons a as ih =>
    cases bs with
    | nil => exact ⟨nofun, nofun⟩
    | cons b bs =>
      have first := tells a List.mem_cons_self b List.mem_cons_self
      have others : ∀ x ∈ as, ∀ y ∈ bs, f x = g y ↔ R x y := fun x hx y hy =>
        tells x (List.mem_cons_of_mem a hx) y (List.mem_cons_of_mem b hy)
      rw [List.map_cons, List.map_cons, List.cons.injEq, List.forall₂_cons, first, ih others]

/-- Two ways through a list that keep the same items, the one as they are and the other as what they
become. -/
theorem forall₂_filter_filterMap {p : α → Bool} {f : α → Option β} {items : List α}
    (each : ∀ x, (p x = true ∧ ∃ y, f x = some y ∧ R x y) ∨ (p x = false ∧ f x = none)) :
    List.Forall₂ R (items.filter p) (items.filterMap f) := by
  induction items with
  | nil => exact .nil
  | cons x items ih =>
    obtain ⟨kept, y, made, related⟩ | ⟨dropped, unmade⟩ := each x
    · rw [List.filter_cons_of_pos kept, List.filterMap_cons_some made]
      exact .cons related ih
    · rw [List.filter_cons_of_neg (Bool.eq_false_iff.1 dropped), List.filterMap_cons_none unmade]
      exact ih

/-- A way through a list that keeps the items from which something is made, and what is made of
each. -/
theorem filterMap_eq_iff_forall₂ {p : α → Bool} {f : α → Option β}
    (kept : ∀ x, p x = (f x).isSome) (made : ∀ x y, f x = some y ↔ R x y) {items : List α}
    {results : List β} :
    items.filterMap f = results ↔ List.Forall₂ R (items.filter p) results := by
  have here : List.Forall₂ R (items.filter p) (items.filterMap f) := by
    refine forall₂_filter_filterMap fun x => ?_
    rw [kept]
    cases result : f x with
    | none => exact .inr ⟨rfl, rfl⟩
    | some y => exact .inl ⟨rfl, y, rfl, (made x y).1 result⟩
  have unique : Relator.RightUnique R := fun x _ _ left right =>
    Option.some.inj (((made x _).2 left).symm.trans ((made x _).2 right))
  exact ⟨fun same => same ▸ here, fun there => List.right_unique_forall₂' unique here there⟩

end Items

end Itinerary
