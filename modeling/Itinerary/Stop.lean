import Itinerary.Place.Location
import Itinerary.Position
import Itinerary.Time.Moment

/-!
# Stops

A stop of a vehicle at a location, with arrival and departure, each planned and predicted. Which of
the two is taken is up to the caller: the planned value is taken if it is wanted and known, else the
predicted one, else the planned one after all. A delay is known only where both values are.
-/

namespace Itinerary

open Time (Moment Duration)

/-- A stop of a vehicle. -/
structure Stop where
  location : Location
  plannedArrival : Option Moment
  predictedArrival : Option Moment
  plannedArrivalPosition : Option Position
  predictedArrivalPosition : Option Position
  arrivalCancelled : Bool
  plannedDeparture : Option Moment
  predictedDeparture : Option Moment
  plannedDeparturePosition : Option Position
  predictedDeparturePosition : Option Position
  departureCancelled : Bool
  deriving DecidableEq

/-- Of a planned and a predicted value the one to use. -/
def choose {α : Type} (preferPlanned : Bool) (planned predicted : Option α) : Option α :=
  if preferPlanned then planned <|> predicted else predicted <|> planned

/-- Of a planned and a predicted value, there is one to choose unless both are missing. -/
theorem isSome_choose {α : Type} (preferPlanned : Bool) (planned predicted : Option α) :
    (choose preferPlanned planned predicted).isSome = (planned.isSome || predicted.isSome) := by
  cases preferPlanned <;> cases planned <;> cases predicted <;> rfl

namespace Stop

/-- A stop at a location with nothing known about it. -/
def bare (location : Location) : Stop :=
  ⟨location, none, none, none, none, false, none, none, none, none, false⟩

/-- The stop with its times alone. -/
def timesOnly (s : Stop) : Stop :=
  { bare s.location with
    plannedArrival := s.plannedArrival
    predictedArrival := s.predictedArrival
    plannedDeparture := s.plannedDeparture
    predictedDeparture := s.predictedDeparture }

/-- The arrival. -/
def arrival (s : Stop) (preferPlanned : Bool) : Option Moment :=
  choose preferPlanned s.plannedArrival s.predictedArrival

/-- The departure. -/
def departure (s : Stop) (preferPlanned : Bool) : Option Moment :=
  choose preferPlanned s.plannedDeparture s.predictedDeparture

/-- Whether the arrival is the predicted one. -/
def arrivalIsPredicted (s : Stop) (preferPlanned : Bool) : Bool :=
  !(preferPlanned && s.plannedArrival.isSome) && s.predictedArrival.isSome

/-- Whether the departure is the predicted one. -/
def departureIsPredicted (s : Stop) (preferPlanned : Bool) : Bool :=
  !(preferPlanned && s.plannedDeparture.isSome) && s.predictedDeparture.isSome

/-- Where the vehicle arrives. -/
def arrivalPosition (s : Stop) (preferPlanned : Bool) : Option Position :=
  choose preferPlanned s.plannedArrivalPosition s.predictedArrivalPosition

/-- Where the vehicle departs. -/
def departurePosition (s : Stop) (preferPlanned : Bool) : Option Position :=
  choose preferPlanned s.plannedDeparturePosition s.predictedDeparturePosition

/-- How much later than planned something is predicted. -/
def delay (planned predicted : Option Moment) : Option Duration := do
  let p ← planned
  let q ← predicted
  pure (q.since p)

def arrivalDelay (s : Stop) : Option Duration := delay s.plannedArrival s.predictedArrival

def departureDelay (s : Stop) : Option Duration := delay s.plannedDeparture s.predictedDeparture

/-- Whether the vehicle is predicted to depart elsewhere than planned. -/
def departurePositionChanged (s : Stop) : Bool :=
  match s.plannedDeparturePosition, s.predictedDeparturePosition with
  | some planned, some predicted => planned ≠ predicted
  | _, _ => false

/-- Two optional moments combined where both are known. -/
def combine (pick : Moment → Moment → Moment) :
    Option Moment → Option Moment → Option Moment
  | some a, some b => some (pick a b)
  | some a, none => some a
  | none, b => b

/-- The earliest plausible departure; on a tie the planned one. -/
def earliest (s : Stop) : Option Moment :=
  combine Moment.earlier s.plannedDeparture s.predictedDeparture

/-- The latest plausible arrival; on a tie the predicted one. -/
def latest (s : Stop) : Option Moment :=
  combine Moment.later s.plannedArrival s.predictedArrival

/-- Whether two optional moments are the same instant, or both unknown. -/
def sameTime : Option Moment → Option Moment → Bool
  | some a, some b => a.sameInstant b
  | none, none => true
  | _, _ => false

/-- Sameness of stops that looks at the instants of their times only. -/
def same (a b : Stop) : Bool :=
  a.location = b.location
    && sameTime a.plannedArrival b.plannedArrival
    && sameTime a.predictedArrival b.predictedArrival
    && a.plannedArrivalPosition = b.plannedArrivalPosition
    && a.predictedArrivalPosition = b.predictedArrivalPosition
    && a.arrivalCancelled = b.arrivalCancelled
    && sameTime a.plannedDeparture b.plannedDeparture
    && sameTime a.predictedDeparture b.predictedDeparture
    && a.plannedDeparturePosition = b.plannedDeparturePosition
    && a.predictedDeparturePosition = b.predictedDeparturePosition
    && a.departureCancelled = b.departureCancelled

def toJson (s : Stop) : Json :=
  .obj [("location", s.location.toJson),
    ("planned_arrival", .opt Moment.toJson s.plannedArrival),
    ("predicted_arrival", .opt Moment.toJson s.predictedArrival),
    ("planned_arrival_position", .opt Position.toJson s.plannedArrivalPosition),
    ("predicted_arrival_position", .opt Position.toJson s.predictedArrivalPosition),
    ("arrival_cancelled", .bool s.arrivalCancelled),
    ("planned_departure", .opt Moment.toJson s.plannedDeparture),
    ("predicted_departure", .opt Moment.toJson s.predictedDeparture),
    ("planned_departure_position", .opt Position.toJson s.plannedDeparturePosition),
    ("predicted_departure_position", .opt Position.toJson s.predictedDeparturePosition),
    ("departure_cancelled", .bool s.departureCancelled)]

def fields : Json.Fields Stop :=
  Stop.mk <$> .required "location" Location.reader <*>
    .maybe "planned_arrival" Moment.reader <*> .maybe "predicted_arrival" Moment.reader <*>
    .maybe "planned_arrival_position" Position.reader <*>
    .maybe "predicted_arrival_position" Position.reader <*>
    .defaulted "arrival_cancelled" .bool false <*>
    .maybe "planned_departure" Moment.reader <*> .maybe "predicted_departure" Moment.reader <*>
    .maybe "planned_departure_position" Position.reader <*>
    .maybe "predicted_departure_position" Position.reader <*>
    .defaulted "departure_cancelled" .bool false

def reader : Json.Reader Stop := .record fields

end Stop

end Itinerary
