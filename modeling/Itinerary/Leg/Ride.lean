import Itinerary.Line.Basic
import Itinerary.Place.Path
import Itinerary.Stop

/-!
# Rides

A ride is a leg on a line with a timetable, from one stop of a vehicle to a later one. The stop
where it starts has a departure and the stop where it ends has an arrival, planned or predicted:
that is part of the type, so the two times of a ride always exist. Cached copies of the departure
and the arrival are left out: since the two ends prove that their times exist, `Ride.departure` and
`Ride.arrival` take them from the stops when they are asked for.

A backend may report where travellers really board and leave. `Ride.reconciled` finds such a place
among the stops of the ride.

What it does not establish: `Ride.isAfter` looks at the first stop and the stops on the way; it does
not look for the last stop.
-/

namespace Itinerary

open Time (Moment Duration)

/-- A backend's own name for the journey of a vehicle. It is compared and never taken apart. -/
structure JourneyRef where
  text : String
  deriving DecidableEq

namespace JourneyRef

/-- The reference as it is shown to developers. -/
def inspect (r : JourneyRef) : String := "JourneyRef(" ++ r.text ++ ")"

def toJson (r : JourneyRef) : Json := .str r.text

def reader : Json.Reader JourneyRef := .map JourneyRef.mk .text

end JourneyRef

namespace Stop

/-- Whether a departure is known, planned or predicted. -/
def hasDeparture (s : Stop) : Bool := s.plannedDeparture.isSome || s.predictedDeparture.isSome

/-- Whether an arrival is known, planned or predicted. -/
def hasArrival (s : Stop) : Bool := s.plannedArrival.isSome || s.predictedArrival.isSome

/-- A stop has a time of departure just if one of the two is known, whichever is preferred. -/
theorem isSome_departure (s : Stop) (preferPlanned : Bool) :
    (s.departure preferPlanned).isSome = s.hasDeparture :=
  isSome_choose _ _ _

/-- A stop has a time of arrival just if one of the two is known, whichever is preferred. -/
theorem isSome_arrival (s : Stop) (preferPlanned : Bool) :
    (s.arrival preferPlanned).isSome = s.hasArrival :=
  isSome_choose _ _ _

/-- Of two times that may be missing, one is picked unless both are missing. -/
theorem isSome_combine (pick : Moment → Moment → Moment) (a b : Option Moment) :
    (combine pick a b).isSome = (a.isSome || b.isSome) := by
  cases a <;> cases b <;> rfl

theorem isSome_earliest (s : Stop) : s.earliest.isSome = s.hasDeparture :=
  isSome_combine _ _ _

theorem isSome_latest (s : Stop) : s.latest.isSome = s.hasArrival :=
  isSome_combine _ _ _

end Stop

/-- A leg on a line with a timetable. -/
structure Ride where
  line : Line
  /-- Where the vehicle is headed. -/
  destination : Option Location
  departureStop : Stop
  arrivalStop : Stop
  /-- The stops on the way, in order. -/
  intermediateStops : List Stop
  message : Option String
  journey : Option JourneyRef
  /-- Where travellers board, if a backend told. -/
  entry : Option Location
  /-- Where travellers leave, if a backend told. -/
  exit : Option Location
  path : Path
  departs : departureStop.hasDeparture = true
  arrives : arrivalStop.hasArrival = true
  deriving DecidableEq

namespace Ride

/-- The ride between two stops with nothing else known. -/
def ofStops (line : Line) (destination : Option Location) (departureStop arrivalStop : Stop)
    (departs : departureStop.hasDeparture = true) (arrives : arrivalStop.hasArrival = true) :
    Ride :=
  ⟨line, destination, departureStop, arrivalStop, [], none, none, none, none, none, departs,
    arrives⟩

/-- The ride between two stops, if both times are known. -/
def between (line : Line) (destination : Option Location) (departureStop arrivalStop : Stop) :
    Except Violation Ride :=
  if departs : departureStop.hasDeparture = true then
    if arrives : arrivalStop.hasArrival = true then
      .ok (ofStops line destination departureStop arrivalStop departs arrives)
    else .error (.missingTime "arrival stop arrival")
  else .error (.missingTime "departure stop departure")

/-- When the vehicle leaves. -/
def departure (r : Ride) (preferPlanned : Bool) : Moment :=
  (r.departureStop.departure preferPlanned).get
    ((r.departureStop.isSome_departure preferPlanned).trans r.departs)

/-- When the vehicle arrives. -/
def arrival (r : Ride) (preferPlanned : Bool) : Moment :=
  (r.arrivalStop.arrival preferPlanned).get
    ((r.arrivalStop.isSome_arrival preferPlanned).trans r.arrives)

/-- The departure of a ride is the one of its first stop, which is never missing. -/
theorem departureStop_departure (r : Ride) (preferPlanned : Bool) :
    r.departureStop.departure preferPlanned = some (r.departure preferPlanned) :=
  (Option.some_get _).symm

/-- The arrival of a ride is the one of its last stop, which is never missing. -/
theorem arrivalStop_arrival (r : Ride) (preferPlanned : Bool) :
    r.arrivalStop.arrival preferPlanned = some (r.arrival preferPlanned) :=
  (Option.some_get _).symm

/-- The earliest plausible departure. -/
def earliest (r : Ride) : Moment :=
  r.departureStop.earliest.get (r.departureStop.isSome_earliest.trans r.departs)

/-- The latest plausible arrival. -/
def latest (r : Ride) : Moment :=
  r.arrivalStop.latest.get (r.arrivalStop.isSome_latest.trans r.arrives)

/-- Whether boarding or leaving is cancelled. -/
def isCancelled (r : Ride) : Bool :=
  r.departureStop.departureCancelled || r.arrivalStop.arrivalCancelled

/-- All stops in the order of travel. -/
def stops (r : Ride) : List Stop :=
  r.departureStop :: r.intermediateStops ++ [r.arrivalStop]

/-- The first stop with the id of a location. -/
def stopAt? (r : Ride) (l : Location) : Option Stop :=
  r.stops.find? fun s => s.location.sameId l

/-- Whether the first of two locations comes up behind the second among some stops, the second
having been met already or not. The first of the two that comes up decides. -/
def comesAfter (l other : Location) : Bool → List Stop → Bool
  | _, [] => false
  | met, s :: rest =>
    if s.location.sameId other then comesAfter l other true rest
    else if s.location.sameId l then met
    else comesAfter l other met rest

/-- Whether the ride passes the first location after the second one. -/
def isAfter (r : Ride) (l other : Location) : Bool :=
  if l.sameId other then false
  else if l.sameId r.departureStop.location then false
  else if other.sameId r.departureStop.location then true
  else comesAfter l other false r.intermediateStops

/-- The record of a place among a stop and the stops on the way: the first with its id, else the
first with its name and town. -/
def recordOf? (r : Ride) (candidate stop : Location) : Option Location :=
  let places := stop :: r.intermediateStops.map Stop.location
  places.find? (·.sameId candidate) <|> places.find? (·.sameNameAndPlace candidate)

/-- A place replaced by its record among a stop and the stops on the way, if it has one. -/
def reconciled (r : Ride) (candidate stop : Location) : Location :=
  (r.recordOf? candidate stop).getD candidate

/-- The ride with the places where a backend says that travellers board and leave. A place of
boarding that is none of the stops up to there may still be the last stop, if nothing is said about
leaving. -/
def withBoarding (r : Ride) (entry exit : Option Location) : Ride :=
  { r with
    entry := entry.map fun candidate =>
      let atEnd :=
        if exit.isNone then r.recordOf? candidate r.arrivalStop.location else none
      (r.recordOf? candidate r.departureStop.location <|> atEnd).getD candidate
    exit := exit.map fun candidate => r.reconciled candidate r.arrivalStop.location }

/-- Sameness of lists by sameness of their items. -/
def sameList {α : Type} (same : α → α → Bool) : List α → List α → Bool
  | [], [] => true
  | a :: as, b :: bs => same a b && sameList same as bs
  | _, _ => false

/-- Sameness of rides that looks at the instants of their times only, and at lines as riders know
them. -/
def same (a b : Ride) : Bool :=
  a.line.same b.line && a.destination = b.destination && a.departureStop.same b.departureStop
    && a.arrivalStop.same b.arrivalStop
    && sameList Stop.same a.intermediateStops b.intermediateStops && a.message = b.message
    && a.journey = b.journey && a.entry = b.entry && a.exit = b.exit && a.path = b.path

/-- The fields of the ride in a document. -/
def entries (r : Ride) : List (String × Json) :=
  [("line", r.line.toJson), ("destination", .opt Location.toJson r.destination),
    ("departure_stop", r.departureStop.toJson), ("arrival_stop", r.arrivalStop.toJson),
    ("intermediate_stops", .list Stop.toJson r.intermediateStops),
    ("message", .optStr r.message), ("journey_ref", .opt JourneyRef.toJson r.journey),
    ("entry_location", .opt Location.toJson r.entry),
    ("exit_location", .opt Location.toJson r.exit), ("path", Path.toJson r.path)]

/-- A ride made of the values of its fields. -/
def assemble (line : Line) (destination : Option Location) (departureStop arrivalStop : Stop)
    (intermediateStops : List Stop) (message : Option String) (journey : Option JourneyRef)
    (entry exit : Option Location) (path : Path) : Except Violation Ride :=
  (between line destination departureStop arrivalStop).map fun r =>
    { r with intermediateStops, message, journey, entry, exit, path }

def fields : Json.Fields (Except Violation Ride) :=
  assemble <$> .required "line" Line.reader <*> .maybe "destination" Location.reader <*>
    .required "departure_stop" Stop.reader <*> .required "arrival_stop" Stop.reader <*>
    .defaulted "intermediate_stops" (.list Stop.reader) [] <*> .maybe "message" .text <*>
    .maybe "journey_ref" JourneyRef.reader <*> .maybe "entry_location" Location.reader <*>
    .maybe "exit_location" Location.reader <*> Path.field

def reader : Json.Reader Ride :=
  .refine (.record fields) fun ride => ride.mapError Violation.message

end Ride

end Itinerary
