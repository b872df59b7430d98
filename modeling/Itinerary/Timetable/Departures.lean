import Itinerary.Timetable.Places

/-!
# Departures of a timetable

The board of a stop lists its departures that do not leave too early, by time and up to a limit, and
the services among them. On demand the boards of equivalent stops follow: those with the same name
in the same town. No two boards are of places that are recognised by the same text.
-/

namespace Itinerary

open Time (Moment Stamp)

/-- Whether a departure does not leave before a time; without a time it is not known to. -/
def Departure.notBefore (time : Option Moment) (d : Departure) : Bool :=
  match time, d.time with
  | some after, some at_ => !at_.before after
  | _, _ => true

/-- The places that are recognised by different texts, each where its text comes up first. -/
def Location.distinct (locations : List Location) : List Location :=
  locations.foldl (fun known l =>
    if known.any (·.identity = l.identity) then known else known ++ [l]) []

namespace Timetable

/-- The board of a place, if the timetable has departures under its id. -/
def board? (t : Timetable) (time : Option Moment) (limit : Nat) (l : Location) :
    Option StationBoard := do
  let id ← l.id
  let departures ← t.departures.lookup id
  let listed := (Departure.sorted (departures.filter (·.notBefore time))).take limit
  pure ⟨l, listed, some (Service.distinct listed)⟩

/-- The places that are equivalent to a stop. -/
def equivalents (t : Timetable) (stop : Location) : List Location :=
  t.locations.filter fun l => !l.sameId stop && l.sameNameAndPlace stop

/-- The departures from the stop with an id. -/
def departuresFrom (t : Timetable) (now : Stamp) (stopId : String) (time : Option Moment)
    (limit : Nat) (equivalent : Bool) : DeparturesAnswer :=
  match t.location? stopId with
  | none => ⟨t.header now, .invalidStation, []⟩
  | some stop =>
    let stops := stop :: if equivalent then t.equivalents stop else []
    ⟨t.header now, .ok, (Location.distinct stops).filterMap (t.board? time limit)⟩

end Timetable

end Itinerary
