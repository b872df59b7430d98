import Itinerary.Place.Location

/-!
# What places share

A stop is found again by its id, and where that fails by its name and town. What is compared then
may be missing: a place without an id, or with an empty one, shares its id with no place, not even
with itself, and a place without a name does not share its name. A missing town is like any other
town.
-/

namespace Itinerary.Location

variable {a b c : Location}

/-- Two places with the same id, which is not empty. -/
def SharesId (a b : Location) : Prop := ∃ id, id ≠ "" ∧ a.id = some id ∧ b.id = some id

/-- Two places with the same name, in the same town or both in none that is known. -/
def SharesName (a b : Location) : Prop :=
  ∃ name, a.name = some name ∧ b.name = some name ∧ a.place = b.place

/-- Two places that share their id or their name. -/
def Resembles (a b : Location) : Prop := a.SharesId b ∨ a.SharesName b

/-- The proper id of a place is its id, unless that is empty. -/
theorem properId_eq_some_iff {id : String} :
    a.properId = some id ↔ id ≠ "" ∧ a.id = some id := by
  unfold properId
  cases a.id with
  | none => exact iff_of_false nofun nofun
  | some own =>
    simp only [Option.some.injEq]
    split
    · rename_i empty
      refine iff_of_false nofun ?_
      rintro ⟨proper, rfl⟩
      exact proper empty
    · rename_i proper
      constructor
      · rintro ⟨⟩
        exact ⟨proper, rfl⟩
      · rintro ⟨-, rfl⟩
        rfl

theorem hasId_iff : a.hasId = true ↔ ∃ id, id ≠ "" ∧ a.id = some id := by
  simp only [hasId, Option.isSome_iff_exists, properId_eq_some_iff]

/-- The comparison of ids: two places share one, and it is not empty. -/
theorem sameId_iff : a.sameId b = true ↔ a.SharesId b := by
  rw [sameId, Bool.and_eq_true, hasId_iff, decide_eq_true_iff]
  constructor
  · rintro ⟨⟨id, proper, left⟩, same⟩
    exact ⟨id, proper, left, same ▸ left⟩
  · rintro ⟨id, proper, left, right⟩
    exact ⟨⟨id, proper, left⟩, left.trans right.symm⟩

/-- The comparison of names: two places share one, in the same town or both in none. -/
theorem sameNameAndPlace_iff : a.sameNameAndPlace b = true ↔ a.SharesName b := by
  rw [sameNameAndPlace, Bool.and_eq_true, Bool.and_eq_true, hasName, Option.isSome_iff_exists,
    decide_eq_true_iff, decide_eq_true_iff]
  constructor
  · rintro ⟨⟨⟨name, left⟩, same⟩, place⟩
    exact ⟨name, left, same ▸ left, place⟩
  · rintro ⟨name, left, right, place⟩
    exact ⟨⟨⟨name, left⟩, left.trans right.symm⟩, place⟩

instance (a b : Location) : Decidable (a.SharesId b) := decidable_of_iff _ sameId_iff

instance (a b : Location) : Decidable (a.SharesName b) := decidable_of_iff _ sameNameAndPlace_iff

instance (a b : Location) : Decidable (a.Resembles b) :=
  inferInstanceAs (Decidable (a.SharesId b ∨ a.SharesName b))

theorem SharesId.symm (same : a.SharesId b) : b.SharesId a := by
  obtain ⟨id, proper, left, right⟩ := same
  exact ⟨id, proper, right, left⟩

/-- Sharing an id is transitive, since the id of the place in between is the same both times. -/
theorem SharesId.trans (first : a.SharesId b) (second : b.SharesId c) : a.SharesId c := by
  obtain ⟨id, proper, left, middle⟩ := first
  obtain ⟨id', -, middle', right⟩ := second
  obtain rfl : id = id' := Option.some.inj (middle.symm.trans middle')
  exact ⟨id, proper, left, right⟩

theorem SharesName.symm (same : a.SharesName b) : b.SharesName a := by
  obtain ⟨name, left, right, place⟩ := same
  exact ⟨name, right, left, place.symm⟩

theorem SharesName.trans (first : a.SharesName b) (second : b.SharesName c) : a.SharesName c := by
  obtain ⟨name, left, middle, place⟩ := first
  obtain ⟨name', middle', right, place'⟩ := second
  obtain rfl : name = name' := Option.some.inj (middle.symm.trans middle')
  exact ⟨name, left, right, place.trans place'⟩

end Itinerary.Location
