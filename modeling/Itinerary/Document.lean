import Itinerary.Json.Scan
import Itinerary.Reference
import Itinerary.Answer.Places
import Itinerary.Answer.Trips
import Itinerary.Backend.Failure
import Itinerary.Timetable.Basic

/-!
# Documents

The types whose values go out as JSON and come back. A document is read at a time, which stands in
for the times of creation that it leaves out; everything else about it is in the text.

`Document.ofJson` reads a value that is at hand and `Document.ofText` the whole of a text. The two
may find different faults first: a text is followed from left to right, and what comes behind its
value is a fault of the text.
-/

namespace Itinerary

open Time (Moment Offset Stamp)

/-- Types whose values are written as JSON and read back. -/
class Document (α : Type) where
  /-- Reads a value at a time. -/
  reader : Stamp → Json.Reader α
  toJson : α → Json

namespace Document

variable {α : Type}

/-- The value that is written as a JSON value. -/
def ofJson [Document α] (now : Stamp) (j : Json) : Except Json.Fault α :=
  reader now .inMemory j.toSource

/-- The value that is written in a text. -/
def ofText [Document α] (now : Stamp) (text : String) : Except Json.Fault α :=
  let document := Json.scan text
  (reader now).document document.source document.ended

end Document

/-! ## Plain values -/

instance : Document Bool := ⟨fun _ => .bool, .bool⟩

instance : Document Nat := ⟨fun _ => .count, fun n => .int n⟩

instance : Document Int32 := ⟨fun _ => .int32, fun w => .int w.toInt⟩

instance : Document Int64 := ⟨fun _ => .int64, fun w => .int w.toInt⟩

instance : Document UInt32 := ⟨fun _ => .uint32, fun w => .int w.toNat⟩

instance : Document Float := ⟨fun _ => .float, .number⟩

instance : Document String := ⟨fun _ => .text, .str⟩

instance {α : Type} [Document α] : Document (Option α) :=
  ⟨fun now => (Document.reader now).optional, .opt Document.toJson⟩

instance {α : Type} [Document α] : Document (List α) :=
  ⟨fun now => (Document.reader now).list, .list Document.toJson⟩

/-! ## Times and names -/

instance : Document Offset := ⟨fun _ => Offset.reader, Offset.toJson⟩

instance : Document Moment := ⟨fun _ => Moment.reader, Moment.toJson⟩

instance : Document Stamp := ⟨fun _ => Stamp.reader, Stamp.toJson⟩

instance : Document NetworkId := ⟨fun _ => NetworkId.reader, NetworkId.toJson⟩

instance : Document Product := ⟨fun _ => Product.reader, Product.toJson⟩

instance : Document ProductSet := ⟨fun _ => ProductSet.reader, ProductSet.toJson⟩

instance : Document Position := ⟨fun _ => Position.reader, Position.toJson⟩

/-! ## Fares, seats and lines -/

instance : Document Passenger := ⟨fun _ => Passenger.reader, Passenger.toJson⟩

instance : Document Fare := ⟨fun _ => Fare.reader, Fare.toJson⟩

instance : Document Occupancy := ⟨fun _ => Occupancy.reader, Occupancy.toJson⟩

instance : Document Capacity := ⟨fun _ => Capacity.reader, Capacity.toJson⟩

instance : Document Shape := ⟨fun _ => Shape.reader, Shape.toJson⟩

instance : Document Style := ⟨fun _ => Style.reader, Style.toJson⟩

instance : Document Line := ⟨fun _ => Line.reader, Line.toJson⟩

/-! ## Places and stops -/

instance : Document Point := ⟨fun _ => Point.reader, Point.toJson⟩

instance : Document PlaceKind := ⟨fun _ => PlaceKind.reader, PlaceKind.toJson⟩

instance : Document Location := ⟨fun _ => Location.reader, Location.toJson⟩

instance : Document Stop := ⟨fun _ => Stop.reader, Stop.toJson⟩

/-! ## Legs and trips -/

instance : Document Movement := ⟨fun _ => Movement.reader, Movement.toJson⟩

instance : Document OwnLeg := ⟨fun _ => OwnLeg.reader, fun l => .obj l.entries⟩

instance : Document JourneyRef := ⟨fun _ => JourneyRef.reader, JourneyRef.toJson⟩

instance : Document Ride := ⟨fun _ => Ride.reader, fun r => .obj r.entries⟩

instance : Document Leg := ⟨fun _ => Leg.reader, Leg.toJson⟩

instance : Document Transfer := ⟨fun _ => Transfer.reader, Transfer.toJson⟩

instance : Document Trip := ⟨Trip.reader, Trip.toJson⟩

instance : Document Reference := ⟨fun _ => Reference.reader, Reference.toJson⟩

/-! ## Queries -/

instance : Document Bound := ⟨fun _ => Bound.reader, Bound.toJson⟩

instance : Document WalkSpeed := ⟨fun _ => WalkSpeed.reader, WalkSpeed.toJson⟩

instance : Document Goal := ⟨fun _ => Goal.reader, Goal.toJson⟩

instance : Document Accessibility := ⟨fun _ => Accessibility.reader, Accessibility.toJson⟩

instance : Document Options := ⟨fun _ => Options.reader, Options.toJson⟩

instance : Document Query := ⟨fun _ => Query.reader, Query.toJson⟩

instance : Document Continuation := ⟨fun _ => Continuation.reader, Continuation.toJson⟩

/-! ## Answers -/

instance : Document Header := ⟨fun _ => Header.reader, Header.toJson⟩

instance : Document TripsStatus := ⟨fun _ => TripsStatus.reader, TripsStatus.toJson⟩

instance : Document TripsAnswer := ⟨TripsAnswer.reader, TripsAnswer.toJson⟩

instance : Document Suggestion := ⟨fun _ => Suggestion.reader, Suggestion.toJson⟩

instance : Document SuggestStatus := ⟨fun _ => SuggestStatus.reader, SuggestStatus.toJson⟩

instance : Document SuggestAnswer := ⟨fun _ => SuggestAnswer.reader, SuggestAnswer.toJson⟩

instance : Document NearbyStatus := ⟨fun _ => NearbyStatus.reader, NearbyStatus.toJson⟩

instance : Document NearbyAnswer := ⟨fun _ => NearbyAnswer.reader, NearbyAnswer.toJson⟩

instance : Document DeparturesStatus := ⟨fun _ => DeparturesStatus.reader, DeparturesStatus.toJson⟩

instance : Document Departure := ⟨fun _ => Departure.reader, Departure.toJson⟩

instance : Document Service := ⟨fun _ => Service.reader, Service.toJson⟩

instance : Document StationBoard := ⟨fun _ => StationBoard.reader, StationBoard.toJson⟩

instance : Document DeparturesAnswer := ⟨fun _ => DeparturesAnswer.reader, DeparturesAnswer.toJson⟩

/-! ## Timetables and what backends can do -/

instance : Document Capability := ⟨fun _ => Capability.reader, Capability.toJson⟩

instance : Document StoredTrip := ⟨fun _ => StoredTrip.reader, StoredTrip.toJson⟩

instance : Document Page := ⟨fun _ => Page.reader, Page.toJson⟩

instance : Document Timetable := ⟨fun _ => Timetable.reader, Timetable.toJson⟩

end Itinerary
