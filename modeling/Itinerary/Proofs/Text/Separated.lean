import Itinerary.Proofs.Order.Listing

/-!
# Texts with separators

A text that was put together with separators can be taken apart again, as long as its parts hold no
separator: at the first separator (`append_cons_inj`), and at all of them where any number of parts
was joined (`intercalate_inj`). So if the part of an item tells something of the item, the joined
text tells it of all items, one by one (`intercalate_map_eq_iff`).
-/

namespace Itinerary.Text

variable {separator : Char}

/-- What stands before and behind the first separator. -/
theorem append_cons_inj {a b x y : List Char} (ha : separator ∉ a) (hb : separator ∉ b)
    (same : a ++ separator :: x = b ++ separator :: y) : a = b ∧ x = y := by
  induction a generalizing b with
  | nil =>
    cases b with
    | nil => exact ⟨rfl, (List.cons.inj same).2⟩
    | cons d b =>
      obtain ⟨rfl, -⟩ := List.cons.inj same
      exact absurd List.mem_cons_self hb
  | cons c a ih =>
    cases b with
    | nil =>
      obtain ⟨rfl, -⟩ := List.cons.inj same
      exact absurd List.mem_cons_self ha
    | cons d b =>
      obtain ⟨rfl, rest⟩ := List.cons.inj same
      obtain ⟨rfl, rfl⟩ :=
        ih (fun mem => ha (List.mem_cons_of_mem _ mem)) (fun mem => hb (List.mem_cons_of_mem _ mem))
          rest
      exact ⟨rfl, rfl⟩

theorem ne_separator {a : List Char} (free : separator ∉ a) :
    ∀ c ∈ a, decide (c ≠ separator) = true := by
  rintro c mem
  exact decide_eq_true fun same => free (same ▸ mem)

/-- What stands before the first separator. -/
theorem takeWhile_append_cons {a : List Char} (free : separator ∉ a) (x : List Char) :
    (a ++ separator :: x).takeWhile (· ≠ separator) = a := by
  rw [List.takeWhile_append_of_pos (ne_separator free)]
  simp

/-- The first separator and what stands behind it. -/
theorem dropWhile_append_cons {a : List Char} (free : separator ∉ a) (x : List Char) :
    (a ++ separator :: x).dropWhile (· ≠ separator) = separator :: x := by
  rw [List.dropWhile_append_of_pos (ne_separator free)]
  simp

/-- The parts that were joined. Without the condition that there are any, no part at all and one
empty part would be joined to the same text. -/
theorem intercalate_inj {as bs : List (List Char)} (ha : ∀ a ∈ as, separator ∉ a)
    (hb : ∀ b ∈ bs, separator ∉ b) (some : as ≠ []) (some' : bs ≠ [])
    (same : [separator].intercalate as = [separator].intercalate bs) : as = bs := by
  rw [← List.splitOn_intercalate separator ha some, same,
    List.splitOn_intercalate separator hb some']

/-- The joined parts of items, where no part holds the separator. -/
theorem intercalate_map_eq_iff {α β : Type} {f : α → List Char} {g : β → List Char}
    {R : α → β → Prop} {as : List α} {bs : List β} (some : as ≠ []) (some' : bs ≠ [])
    (free : ∀ a ∈ as, separator ∉ f a) (free' : ∀ b ∈ bs, separator ∉ g b)
    (tells : ∀ a ∈ as, ∀ b ∈ bs, f a = g b ↔ R a b) :
    [separator].intercalate (as.map f) = [separator].intercalate (bs.map g) ↔
      List.Forall₂ R as bs := by
  rw [← map_eq_map_iff tells]
  constructor
  · intro same
    exact intercalate_inj (List.forall_mem_map.2 free) (List.forall_mem_map.2 free')
      (by simpa using some) (by simpa using some') same
  · intro same
    rw [same]

end Itinerary.Text
