import Itinerary.Place.Path
import Itinerary.Place.Location
import Itinerary.Time.Moment

/-!
# Legs without a timetable

A walk, a ride on one's own bike, a change of platform. Such a leg has the times that the itinerary
gives it, and it can be moved: `OwnLeg.departingAt` keeps everything about it but the two times, and
the time between them as far as the clock reaches.
-/

namespace Itinerary

open Time (Moment Duration)

/-- How travellers move on their own. -/
inductive Movement where
  | walk
  | bike
  | car
  | transfer
  | checkIn
  | checkOut
  deriving DecidableEq

namespace Movement

def all : List Movement := [walk, bike, car, transfer, checkIn, checkOut]

def name : Movement → String
  | walk => "walk"
  | bike => "bike"
  | car => "car"
  | transfer => "transfer"
  | checkIn => "check_in"
  | checkOut => "check_out"

def toJson (m : Movement) : Json := .str m.name

def reader : Json.Reader Movement := .variant (all.map fun m => (m.name, m))

end Movement

/-- A leg without a timetable. -/
structure OwnLeg where
  movement : Movement
  start : Location
  departure : Moment
  finish : Location
  arrival : Moment
  /-- Metres. -/
  distance : UInt32
  path : Path
  deriving DecidableEq

namespace OwnLeg

/-- How long the leg takes. -/
def duration (l : OwnLeg) : Duration := l.arrival.since l.departure

/-- The leg moved to another departure. -/
def departingAt (l : OwnLeg) (departure : Moment) : OwnLeg :=
  { l with
    departure := departure
    arrival := l.arrival.shift (departure.since l.departure) }

/-- Sameness of legs that looks at the instants of their times only. -/
def same (a b : OwnLeg) : Bool :=
  a.movement = b.movement && a.start = b.start && a.departure.sameInstant b.departure
    && a.finish = b.finish && a.arrival.sameInstant b.arrival && a.distance = b.distance
    && a.path = b.path

/-- The fields of the leg in a document. -/
def entries (l : OwnLeg) : List (String × Json) :=
  [("kind", l.movement.toJson), ("departure", l.start.toJson),
    ("departure_time", l.departure.toJson), ("arrival", l.finish.toJson),
    ("arrival_time", l.arrival.toJson), ("distance", .int l.distance.toNat),
    ("path", Path.toJson l.path)]

def fields : Json.Fields OwnLeg :=
  OwnLeg.mk <$> .required "kind" Movement.reader <*> .required "departure" Location.reader <*>
    .required "departure_time" Moment.reader <*> .required "arrival" Location.reader <*>
    .required "arrival_time" Moment.reader <*> .defaulted "distance" .uint32 0 <*> Path.field

def reader : Json.Reader OwnLeg := .record fields

end OwnLeg

end Itinerary
