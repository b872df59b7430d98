import Itinerary.Answer.Places
import Itinerary.Text.Blank
import Itinerary.Text.Casing
import Itinerary.Timetable.Basic

/-!
# Places of a timetable

The places that a question means. An id means the first place with it; a coordinate means itself; a
name, without either, means all places with that name, the case of ASCII letters apart, and in the
same town where the question gives one. That is `Timetable.resolve`.

A search compares lower-case texts, and whether it meets the whole name, the beginning of the name
or something in name or town decides the weight of a suggestion.
-/

namespace Itinerary

open Time (Stamp)

/-- What a place in a question stands for. -/
inductive Resolution where
  | found (location : Location)
  | ambiguous (locations : List Location)
  | unknown
  deriving DecidableEq

namespace Resolution

/-- The places to choose from. -/
def candidates : Resolution → List Location
  | ambiguous locations => locations
  | _ => []

def isAmbiguous : Resolution → Bool
  | ambiguous _ => true
  | _ => false

end Resolution

/-- Whether a question for certain kinds of places is also one for a kind: no kinds are all kinds.
-/
def PlaceKind.isWanted (kinds : List PlaceKind) (kind : PlaceKind) : Bool :=
  kinds.isEmpty || kinds.contains .any || kinds.contains kind

/-- Whether one list of characters occurs in another one. -/
def Text.occursIn (needle : List Char) : List Char → Bool
  | [] => needle.isEmpty
  | c :: rest => needle.isPrefixOf (c :: rest) || occursIn needle rest

namespace Timetable

/-- The header of every answer out of a timetable. -/
def header (t : Timetable) (now : Stamp) : Header := ⟨t.network, some "fixture", none, now⟩

/-- The first place with an id. -/
def location? (t : Timetable) (id : String) : Option Location :=
  t.locations.find? (·.id = some id)

/-- The places with a name, in a town if one is given. -/
def named (t : Timetable) (name : String) (place : Option String) : List Location :=
  t.locations.filter fun l =>
    (match l.name with
      | some n => Text.sameIgnoringAsciiCase n name
      | none => false)
    && (place.isNone || l.place = place)

/-- What a place in a question stands for. -/
def resolve (t : Timetable) (l : Location) : Resolution :=
  match l.properId with
  | some id =>
    match t.location? id with
    | some found => .found found
    | none => .unknown
  | none =>
    if l.hasCoord then .found l
    else
      match l.name with
      | none => .unknown
      | some name =>
        match t.named name l.place with
        | [] => .unknown
        | [found] => .found found
        | many => .ambiguous many

/-- The weight of a place for a search in lower case, if it is met at all. -/
def weight (needle : List Char) (l : Location) : Option Int32 :=
  let name := (Text.lowercase (l.name.getD "")).toList
  let place := (Text.lowercase (l.place.getD "")).toList
  if name = needle then some 3
  else if needle.isPrefixOf name then some 2
  else if Text.occursIn needle name || Text.occursIn needle place then some 1
  else none

/-- All suggestions for a text, the heaviest first. -/
def suggestions (t : Timetable) (text : String) (kinds : List PlaceKind) : List Suggestion :=
  let needle := (Text.lowercase (Text.trim text)).toList
  Suggestion.ranked <| (t.locations.filter fun l => l.kind.isWanted kinds).filterMap fun l =>
    (weight needle l).map (⟨l, ·⟩)

/-- The suggestions for a text, at most so many. -/
def suggest (t : Timetable) (now : Stamp) (text : String) (kinds : List PlaceKind)
    (limit : Nat) : SuggestAnswer :=
  ⟨t.header now, .ok, (t.suggestions text kinds).take limit⟩

/-- The places that have a coordinate, each behind its coordinate. -/
def located (t : Timetable) (kinds : List PlaceKind) : List (Point × Location) :=
  (t.locations.filter fun l => l.kind.isWanted kinds).filterMap fun l => l.coord.map (·, l)

/-- The places around another one, the nearest first. Under a greatest distance, a place whose
distance is no number is left out. -/
def nearby (t : Timetable) (now : Stamp) (kinds : List PlaceKind) (l : Location)
    (maxDistance : UInt32) (limit : Nat) : NearbyAnswer :=
  let center := match l.coord, l.id with
    | some p, _ => some p
    | none, some id => (t.location? id).bind Location.coord
    | none, none => none
  match center with
  | none => ⟨t.header now, .invalidId, []⟩
  | some p =>
    let near := (t.located kinds).filter fun (q, _) =>
      maxDistance = 0 || p.distance q ≤ Float.ofNat maxDistance.toNat
    let sorted := near.mergeSort fun a b => p.distanceRank a.1 ≤ p.distanceRank b.1
    ⟨t.header now, .ok, (sorted.take limit).map Prod.snd⟩

end Timetable

end Itinerary
