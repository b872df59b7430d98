import Itinerary.Answer.Trips
import Itinerary.Trip.Identity

/-!
# What clients see of trips

Times are shown as riders read them, places by their best names, and durations in whole minutes. A
stop on the way shows its arrival, and its departure only where no arrival is known.
-/

namespace Itinerary.Web

open Time (Moment Duration)

/-- A stop of a ride. -/
structure StopView where
  id : Option String
  name : String
  time : Option String
  /-- Minutes. -/
  delay : Option Int
  position : Option String
  deriving DecidableEq

namespace StopView

/-- A stop at a certain time. -/
def of (l : Location) (time : Option Moment) (delay : Option Duration)
    (position : Option Position) : StopView :=
  ⟨l.id, l.title, time.map Moment.text, delay.map Duration.minutes, position.map Position.text⟩

/-- The stop where a ride starts. -/
def departure (s : Stop) : StopView :=
  of s.location (s.departure false) s.departureDelay (s.departurePosition false)

/-- The stop where a ride ends. -/
def arrival (s : Stop) : StopView :=
  of s.location (s.arrival false) s.arrivalDelay (s.arrivalPosition false)

/-- A stop on the way. -/
def passing (s : Stop) : StopView :=
  of s.location (s.arrival false <|> s.departure false) (s.arrivalDelay <|> s.departureDelay) none

def toJson (v : StopView) : Json :=
  .obj [("id", .optStr v.id), ("name", .str v.name), ("time", .optStr v.time),
    ("delay_mins", .opt .int v.delay), ("position", .optStr v.position)]

end StopView

/-- A leg of a trip. -/
inductive LegView where
  | ride (line : Option String) (product : Char) (destination : Option String)
      (departure arrival : StopView) (stops : List StopView) (cancelled : Bool)
      (message : Option String)
  | own (movement : Movement) (start finish : String) (departure arrival : String)
      (minutes : Int) (distance : UInt32) (path : Option String)
  deriving DecidableEq

namespace LegView

def of : Leg → LegView
  | .ride r =>
    ride r.line.label r.line.productCode (r.destination.map Location.title)
      (.departure r.departureStop) (.arrival r.arrivalStop)
      (r.intermediateStops.map StopView.passing) r.isCancelled r.message
  | .own l =>
    own l.movement l.start.title l.finish.title l.departure.text l.arrival.text
      l.duration.minutes l.distance (l.path.map fun points => Path.encode (some points))

def toJson : LegView → Json
  | ride line product destination departure arrival stops cancelled message =>
    .obj [("type", .str "public"), ("line", .optStr line),
      ("product", .str (String.singleton product)), ("destination", .optStr destination),
      ("departure", departure.toJson), ("arrival", arrival.toJson),
      ("stops", .list StopView.toJson stops), ("cancelled", .bool cancelled),
      ("message", .optStr message)]
  | own movement start finish departure arrival minutes distance path =>
    .obj [("type", .str "individual"), ("kind", movement.toJson), ("from", .str start),
      ("to", .str finish), ("departure", .str departure), ("arrival", .str arrival),
      ("duration_mins", .int minutes), ("distance", .int distance.toNat),
      ("path", .optStr path)]

end LegView

/-- A trip. -/
structure TripView where
  id : String
  uniqueId : String
  departure : String
  arrival : String
  minutes : Int
  ridingMinutes : Option Int
  changes : Option Nat
  products : String
  travelable : Bool
  legs : List LegView
  deriving DecidableEq

namespace TripView

def of (t : Trip) : TripView where
  id := t.id
  uniqueId := t.uniqueId
  departure := t.departure.text
  arrival := t.arrival.text
  minutes := t.duration.minutes
  ridingMinutes := t.ridingTime.map Duration.minutes
  changes := t.changes
  products := t.products.codes
  travelable := t.isTravelable
  legs := t.legs.map LegView.of

def toJson (v : TripView) : Json :=
  .obj [("id", .str v.id), ("unique_id", .str v.uniqueId), ("departure", .str v.departure),
    ("arrival", .str v.arrival), ("duration_mins", .int v.minutes),
    ("public_duration_mins", .opt .int v.ridingMinutes),
    ("num_changes", .opt (fun n => .int n) v.changes), ("products", .str v.products),
    ("travelable", .bool v.travelable), ("legs", .list LegView.toJson v.legs)]

end TripView

end Itinerary.Web
