import Itinerary.Digest
import Itinerary.Trip.Basic

/-!
# What tells trips apart

A trip without an id of its own gets one from its legs (`Trip.id`): their ends and, for rides,
planned times, product and label. Trips with the same id are the same trip.

`Trip.uniqueId` tells journeys apart across pages of results. It looks at the rides alone: the
journey of each vehicle and where and in which minute it is boarded and left, as planned where that
is known. A journey that a backend names enters by a digest of that name, so the digest is a
parameter of everything here (`Trip.uniqueIdBy`).
-/

namespace Itinerary

open Time (Moment)

/-- The instant of a planned time with a hyphen behind it; nothing where none is known. -/
def plannedMark : Option Moment → List Char
  | some m => Decimal.signed m.ms ++ ['-']
  | none => []

/-- What the id of a trip says about one leg. -/
def Leg.mark (l : Leg) : List Char :=
  l.start.identity.toList ++ '-' :: l.finish.identity.toList ++ '-' ::
    match l with
    | .own _ => "individual".toList
    | .ride r =>
      plannedMark r.departureStop.plannedDeparture ++ plannedMark r.arrivalStop.plannedArrival ++
        r.line.productCode :: (r.line.label.getD "").toList

/-- Sixteen hexadecimal digits of a word. -/
def wordMark (w : UInt64) : List Char :=
  let ds := Nat.toDigits 16 w.toNat
  List.replicate (16 - ds.length) '0' ++ ds

namespace Ride

/-- The departure, as planned where that is known. -/
def boarding (r : Ride) : Moment := r.departure true

/-- The arrival, as planned where that is known. -/
def leaving (r : Ride) : Moment := r.arrival true

/-- The line by its id, else by its label. -/
def lineKey (r : Ride) : String := (r.line.id <|> r.line.label).getD ""

/-- The journey of the vehicle: the digest of its name, else the line and the minute of departure.
-/
def journeyKey (digest : String → UInt64) (r : Ride) : List Char :=
  match r.journey with
  | some ref => wordMark (digest ref.text)
  | none => r.lineKey.toList ++ '~' :: Decimal.signed r.boarding.minute

/-- The journey and where and when it is boarded and left. -/
def key (digest : String → UInt64) (r : Ride) : List Char :=
  r.journeyKey digest ++ '@' :: r.departureStop.location.identity.toList ++
    ',' :: Decimal.signed r.boarding.minute ++
    ',' :: r.arrivalStop.location.identity.toList ++ ',' :: Decimal.signed r.leaving.minute

end Ride

namespace Trip

/-- The id that the legs give to a trip. -/
def derivedId (t : Trip) : String :=
  String.ofList (['|'].intercalate (t.legs.map Leg.mark))

/-- The id of a trip. -/
def id (t : Trip) : String := t.explicitId.getD t.derivedId

/-- Whether two trips are the same by their ids. -/
def same (a b : Trip) : Bool := a.id = b.id

/-- What tells a journey apart across pages, for a digest of journey names. -/
def uniqueIdBy (digest : String → UInt64) (t : Trip) : String :=
  if t.rides.isEmpty then t.id
  else String.ofList (['/'].intercalate (t.rides.map (Ride.key digest)))

/-- The id is made of the explicit id and of what is said about the legs. -/
theorem id_congr {a b : Trip} (explicit : a.explicitId = b.explicitId)
    (marks : a.legs.map Leg.mark = b.legs.map Leg.mark) : a.id = b.id := by
  rw [id, id, derivedId, derivedId, explicit, marks]

/-- The unique id is made of the keys of the rides, or of the id where there are none. -/
theorem uniqueIdBy_congr {digest : String → UInt64} {a b : Trip} (id : a.id = b.id)
    (keys : a.rides.map (Ride.key digest) = b.rides.map (Ride.key digest)) :
    a.uniqueIdBy digest = b.uniqueIdBy digest := by
  have empty := congrArg List.isEmpty keys
  rw [List.isEmpty_map, List.isEmpty_map] at empty
  rw [uniqueIdBy, uniqueIdBy, empty, id, keys]

/-- What tells a journey apart across pages. -/
def uniqueId (t : Trip) : String := t.uniqueIdBy Digest.ofText

/-- Adds those trips to a list whose journeys are not in it yet. -/
def mergePage (existing : List Trip) : List Trip → List Trip
  | [] => existing
  | t :: page =>
    if existing.any fun e => e.uniqueId = t.uniqueId then mergePage existing page
    else mergePage (existing ++ [t]) page

/-- A list of trips with those of a page that are new to it, and how many these are. -/
def merge (existing page : List Trip) : List Trip × Nat :=
  let all := mergePage existing page
  (all, all.length - existing.length)

end Trip

end Itinerary
