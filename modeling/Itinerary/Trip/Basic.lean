import Itinerary.Capacity
import Itinerary.Fare
import Itinerary.Leg.Basic
import Itinerary.Time.Stamp
import Itinerary.Trip.Transfer

/-!
# Trips

A trip is a way from one place to another in one leg or more. That there is a leg is part of the
type, so a trip has a first and a last leg, and with them its times, without a case to fail. What is
known of the whole beside the legs comes from a backend: an id of its own, a number of changes,
fares, seats, and later the chances of the changes.

A trip is travelable when no ride is cancelled and no time lies before the one in front of it
(`Trip.isTravelable`).
-/

namespace Itinerary

open Time (Moment Duration Stamp)

/-- A way from one place to another. -/
structure Trip where
  /-- The id that a backend gave. -/
  explicitId : Option String
  origin : Location
  destination : Location
  legs : List Leg
  /-- The number of changes that a backend stated. -/
  explicitChanges : Option UInt32
  fares : List Fare
  capacity : Option Capacity
  created : Stamp
  updated : Stamp
  detailsLoaded : Bool
  transfers : List Transfer
  nonempty : legs ≠ []

namespace Trip

/-- The trip over some legs with nothing else known, as it was at a time. -/
def ofLegs (now : Stamp) (explicitId : Option String) (origin destination : Location)
    (legs : List Leg) (nonempty : legs ≠ []) : Trip :=
  ⟨explicitId, origin, destination, legs, none, [], none, now, now, false, [], nonempty⟩

/-- The trip over some legs, built at a time; there has to be a leg. -/
def build (now : Stamp) (explicitId : Option String) (origin destination : Location)
    (legs : List Leg) : Except Violation Trip :=
  match legs with
  | [] => .error .emptyTrip
  | leg :: rest =>
    .ok (ofLegs now explicitId origin destination (leg :: rest) (List.cons_ne_nil leg rest))

/-- The trip with another time of creation, which is also its last change. -/
def createdAt (t : Trip) (created : Stamp) : Trip := { t with created, updated := created }

/-- The trip with details that were fetched at a time. -/
def withDetails (t : Trip) (now : Stamp) (transfers : List Transfer) : Trip :=
  { t with transfers, detailsLoaded := true, updated := now }

/-- The trip with a path for one of its legs. -/
def withLegPath (t : Trip) (index : Nat) (points : List Point) : Except Violation Trip :=
  if index < t.legs.length then
    .ok { t with
      legs := t.legs.modify index (Leg.withPath points)
      nonempty := fun h => t.nonempty (by
        rw [← List.length_eq_zero_iff, List.length_modify] at h
        exact List.length_eq_zero_iff.1 h) }
  else .error (.noSuchLeg index)

/-- The rides of the trip. -/
def rides (t : Trip) : List Ride := t.legs.filterMap Leg.ride?

def firstLeg (t : Trip) : Leg := t.legs.head t.nonempty

def lastLeg (t : Trip) : Leg := t.legs.getLast t.nonempty

/-- When the trip starts. -/
def departure (t : Trip) : Moment := t.firstLeg.departure

/-- When the trip ends. -/
def arrival (t : Trip) : Moment := t.lastLeg.arrival

/-- The earliest plausible time of any leg; on a tie that of the first. -/
def earliest (t : Trip) : Moment :=
  (t.legs.tail.map Leg.earliest).foldl Moment.earlier t.firstLeg.earliest

/-- The latest plausible time of any leg; on a tie that of the last. -/
def latest (t : Trip) : Moment :=
  (t.legs.tail.map Leg.latest).foldl Moment.later t.firstLeg.latest

/-- From the first departure to the last arrival. -/
def duration (t : Trip) : Duration := t.arrival.since t.departure

/-- From boarding the first ride to leaving the last one. -/
def ridingTime (t : Trip) : Option Duration := do
  let first ← t.rides.head?
  let last ← t.rides.getLast?
  pure ((last.arrival false).since (first.departure false))

/-- The number of changes between rides: the one that a backend stated, else one less than there are
rides. It is unknown for a trip without rides. -/
def changes (t : Trip) : Option Nat :=
  match t.explicitChanges with
  | some n => some n.toNat
  | none => if t.rides.isEmpty then none else some (t.rides.length - 1)

/-- The products of the rides. -/
def products (t : Trip) : ProductSet := .ofList (t.rides.filterMap (·.line.product))

/-- Whether no moment lies before the one in front of it. -/
def inOrder : List Moment → Bool
  | a :: b :: rest => !b.before a && inOrder (b :: rest)
  | _ => true

/-- Departure and arrival of every leg. -/
def times (t : Trip) : List Moment := t.legs.flatMap fun l => [l.departure, l.arrival]

/-- Whether the trip can be taken. -/
def isTravelable (t : Trip) : Bool := !t.legs.any Leg.isCancelled && inOrder t.times

end Trip

end Itinerary
