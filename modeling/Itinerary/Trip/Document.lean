import Itinerary.Trip.Basic

/-!
# Trips in documents

A document holds what a backend or a user put into a trip; what follows from the legs is left out. A
trip without a time of creation is created when it is read, so reading takes the time of day.
-/

namespace Itinerary

open Time (Stamp)

namespace Trip

def toJson (t : Trip) : Json :=
  .obj [("id", .optStr t.explicitId), ("from", t.origin.toJson), ("to", t.destination.toJson),
    ("legs", .list Leg.toJson t.legs),
    ("num_changes", .opt (fun n => .int n.toNat) t.explicitChanges),
    ("fares", .list Fare.toJson t.fares), ("capacity", .opt Capacity.toJson t.capacity),
    ("created_at", t.created.toJson), ("updated_at", t.updated.toJson),
    ("details_loaded", .bool t.detailsLoaded),
    ("transfer_details", .list Transfer.toJson t.transfers)]

/-- A trip made of the values of its fields at a time. -/
def assemble (now : Stamp) (explicitId : Option String) (origin destination : Location)
    (legs : List Leg) (explicitChanges : Option UInt32) (fares : List Fare)
    (capacity : Option Capacity) (created updated : Option Stamp) (detailsLoaded : Bool)
    (transfers : List Transfer) : Except Violation Trip :=
  (build now explicitId origin destination legs).map fun t =>
    let created := created.getD now
    { t with
      explicitChanges, fares, capacity, created, detailsLoaded, transfers
      updated := updated.getD created }

def fields (now : Stamp) : Json.Fields (Except Violation Trip) :=
  assemble now <$> .maybe "id" .text <*> .required "from" Location.reader <*>
    .required "to" Location.reader <*> .required "legs" (.list Leg.reader) <*>
    .maybe "num_changes" .uint32 <*> .defaulted "fares" (.list Fare.reader) [] <*>
    .maybe "capacity" Capacity.reader <*> .maybe "created_at" Stamp.reader <*>
    .maybe "updated_at" Stamp.reader <*> .defaulted "details_loaded" .bool false <*>
    .defaulted "transfer_details" (.list Transfer.reader) []

def reader (now : Stamp) : Json.Reader Trip :=
  .refine (.record (fields now)) fun trip => trip.mapError Violation.message

end Trip

end Itinerary
