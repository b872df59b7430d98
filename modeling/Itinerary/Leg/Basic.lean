import Itinerary.Leg.Own
import Itinerary.Leg.Ride

/-!
# Legs

One movement of a trip, either a traveller's own or a ride. Whatever its kind, a leg has two ends
and two times, and a predicted time is taken where there is one.
-/

namespace Itinerary

open Time (Moment Duration)

/-- One movement of a trip. -/
inductive Leg where
  | own (leg : OwnLeg)
  | ride (ride : Ride)
  deriving DecidableEq

namespace Leg

def isRide : Leg → Bool
  | own _ => false
  | ride _ => true

/-- The ride, if the leg is one. -/
def ride? : Leg → Option Ride
  | own _ => none
  | ride r => some r

/-- Where the leg starts. -/
def start : Leg → Location
  | own l => l.start
  | ride r => r.departureStop.location

/-- Where the leg ends. -/
def finish : Leg → Location
  | own l => l.finish
  | ride r => r.arrivalStop.location

/-- When the leg starts. -/
def departure : Leg → Moment
  | own l => l.departure
  | ride r => r.departure false

/-- When the leg ends. -/
def arrival : Leg → Moment
  | own l => l.arrival
  | ride r => r.arrival false

/-- The earliest plausible departure. -/
def earliest : Leg → Moment
  | own l => l.departure
  | ride r => r.earliest

/-- The latest plausible arrival. -/
def latest : Leg → Moment
  | own l => l.arrival
  | ride r => r.latest

def path : Leg → Path
  | own l => l.path
  | ride r => r.path

/-- The leg with another path. -/
def withPath (points : List Point) : Leg → Leg
  | own l => own { l with path := some points }
  | ride r => ride { r with path := some points }

/-- Whether boarding or leaving is cancelled. -/
def isCancelled : Leg → Bool
  | own _ => false
  | ride r => r.isCancelled

/-- Sameness of legs that looks at the instants of their times only. -/
def same : Leg → Leg → Bool
  | own a, own b => a.same b
  | ride a, ride b => a.same b
  | _, _ => false

def toJson : Leg → Json
  | own l => .obj (("leg", .str "individual") :: l.entries)
  | ride r => .obj (("leg", .str "public") :: r.entries)

/-- The reader for the kind of leg that a tag names. -/
def readerOf (tag : String) : Except Json.Fault (Json.Reader Leg) :=
  if tag = "individual" then .ok (.map own OwnLeg.reader)
  else if tag = "public" then .ok (.map ride Ride.reader)
  else .error (.unknownVariant tag)

def reader : Json.Reader Leg := .tagged "leg" readerOf

end Leg

end Itinerary
