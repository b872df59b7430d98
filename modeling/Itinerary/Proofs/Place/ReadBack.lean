import Itinerary.Place.Location
import Itinerary.Proofs.Json.Printed
import Itinerary.Proofs.Json.ReadBack
import Itinerary.Proofs.Product.Codes

/-!
# Reading places back

The codes of the members of a set of products are read as the set (`ProductSet.ofCodes_codes`).
With that, a location is read back whatever is known or unknown about it (`Location.readsBack`), and
its JSON is plain (`Location.plain`).
-/

namespace Itinerary

open Json

/-! ## Sets of products -/

namespace ProductSet

/-- A set of products is read back from the list of its products. -/
theorem readsBack (s : ProductSet) : reader.ReadsBack toJson s := by
  have made : (ofCodes s.codes).mapError Violation.message = .ok s := by
    rw [ofCodes_codes]
    rfl
  exact .refine codes (.text s.codes) made

end ProductSet

/-! ## Points and locations -/

theorem Point.readsBack (p : Point) : Point.reader.ReadsBack Point.toJson p :=
  Fields.Reads.record <|
    Fields.Reads.map Point.mk (.field (.int32 p.lat))
      |>.seq (.field (.int32 p.lon)) (by simp)

theorem Point.plain (p : Point) (depth : Nat) : p.toJson.Plain (depth + 1) :=
  ⟨plain_int32 p.lat depth, plain_int32 p.lon depth, trivial⟩

theorem PlaceKind.readsBack (k : PlaceKind) : PlaceKind.reader.ReadsBack PlaceKind.toJson k :=
  .variant (by cases k <;> rfl)

/-- A location is read back, whatever is missing of it. -/
theorem Location.readsBack (l : Location) : Location.reader.ReadsBack Location.toJson l :=
  Fields.Reads.record <|
    Fields.Reads.map Location.mk (.field l.kind.readsBack)
      |>.seq (.field (.optText l.id)) (by simp)
      |>.seq (.field (.optional (fun p _ => p.readsBack) fun _ => nofun)) (by simp)
      |>.seq (.field (.optText l.place)) (by simp)
      |>.seq (.field (.optText l.name)) (by simp)
      |>.seq (.field (.optional (fun s _ => s.readsBack) fun _ => nofun)) (by simp)

theorem Location.plain (l : Location) (depth : Nat) : l.toJson.Plain (depth + 2) :=
  ⟨trivial, plain_opt fun _ _ => trivial, plain_opt fun p _ => p.plain depth,
    plain_opt fun _ _ => trivial, plain_opt fun _ _ => trivial, plain_opt fun _ _ => trivial,
    trivial⟩

end Itinerary
