import Itinerary.Answer.Trips
import Itinerary.Backend.Failure
import Itinerary.Text.Number
import Itinerary.Text.Quoted
import Itinerary.Timetable.Places
import Itinerary.Trip.Repair

/-!
# Trips of a timetable, page by page

A new query is answered with one page, and its continuation points at the pages in front of it and
behind it. A cursor is the word `page`, a colon and the number of a page. Going on in one direction
serves the page of that direction's cursor and moves that cursor one page further; at the first and
the last page it becomes absent, and a direction without a cursor has no trips.

A page serves a query with those of its trips that run between the ends, by way of the third place
if there is one, and that the options allow. Whether any page holds such a trip is asked of the
stored legs and without the options (`Timetable.hasTrip`).
-/

namespace Itinerary

open Time (Stamp)

/-- Whether legs run between two places, by way of a third one if there is one. Places are compared
by what they are recognised by. -/
def Leg.connect (legs : List Leg) (origin : Location) (via : Option Location)
    (destination : Location) : Bool :=
  match legs.head?, legs.getLast? with
  | some first, some last =>
    first.start.identity = origin.identity && last.finish.identity = destination.identity
      && (match via with
        | some v =>
          legs.any fun l => l.finish.identity = v.identity || l.start.identity = v.identity
        | none => true)
  | _, _ => false

/-- The trip that a stored one is between two places, repaired; none if it has no legs. -/
def StoredTrip.build (s : StoredTrip) (now : Stamp) (origin destination : Location) :
    Option Trip :=
  match Trip.build now s.id origin destination s.legs with
  | .error _ => none
  | .ok t =>
    let full : Trip :=
      { t with explicitChanges := s.changes, capacity := s.capacity, fares := s.fares }
    some full.repaired.1

/-- Whether a trip uses allowed products only and does not change too often. -/
def Options.allow (o : Options) (t : Trip) : Bool :=
  t.rides.all (fun r => o.allows r.line.product)
    && (match o.maxChanges, t.changes with
      | some most, some changes => changes ≤ most.toNat
      | _, _ => true)

namespace Cursor

/-- The characters in front of the number of a page. -/
def lead : List Char := ['p', 'a', 'g', 'e', ':']

/-- The cursor for a page. -/
def ofPage (n : Nat) : String := String.ofList (lead ++ Decimal.digits n)

/-- The page of a cursor, if the text is one. A page number fits 64 bits. -/
def page? (cursor : String) : Option Nat :=
  match cursor.toList with
  | 'p' :: 'a' :: 'g' :: 'e' :: ':' :: rest => Text.unsigned? UInt64.size rest
  | _ => none

end Cursor

namespace Timetable

/-- The trips of a page that serve a query. -/
def serve (now : Stamp) (page : Page) (origin : Location) (via : Option Location)
    (destination : Location) (options : Options) : List Trip :=
  (page.trips.filterMap fun s => s.build now origin destination).filter fun trip =>
    Leg.connect trip.legs origin via destination && options.allow trip

/-- Whether any page holds a trip between two places. -/
def hasTrip (t : Timetable) (origin : Location) (via : Option Location)
    (destination : Location) : Bool :=
  t.pages.any fun page => page.trips.any fun s => Leg.connect s.legs origin via destination

/-- The cursor for the page next to another one. -/
def cursorFrom (t : Timetable) (page : Nat) (later : Bool) : Option String :=
  if later then
    if page + 1 < t.pages.length then some (Cursor.ofPage (page + 1)) else none
  else if page = 0 then none
  else some (Cursor.ofPage (page - 1))

/-- The page that a cursor points at. -/
def pageAt (t : Timetable) (cursor : String) : Except Failure (Nat × Page) :=
  match Cursor.page? cursor with
  | none => .error (.invalidContext ("unrecognized cursor " ++ Text.quoted cursor))
  | some n =>
    match t.pages[n]? with
    | some page => .ok (n, page)
    | none => .error (.invalidContext ("cursor " ++ Text.quoted cursor ++ " past last page"))

/-- The number of the page that answers a new query. -/
def firstPage (t : Timetable) : Nat := min t.initialPage (t.pages.length - 1)

/-- The answer to a query whose ends are known. -/
def tripsBetween (t : Timetable) (now : Stamp) (query : Query) (options : Options)
    (origin : Location) (via : Option Location) (destination : Location) : TripsAnswer :=
  if origin.identity = destination.identity then .bare (t.header now) .tooClose
  else if t.hasTrip origin via destination then
    let n := t.firstPage
    let trips := match t.pages[n]? with
      | some page => serve now page origin via destination options
      | none => []
    let resolved : Query := { query with origin, via, destination }
    .found (t.header now) origin via destination
      (some ⟨resolved, options, t.cursorFrom n false, t.cursorFrom n true⟩) trips
  else
    { TripsAnswer.bare (t.header now) .noTrips with
      origin := some origin
      via := via
      destination := some destination }

/-- The answer to a new query. -/
def trips (t : Timetable) (now : Stamp) (query : Query) (options : Options) : TripsAnswer :=
  let origin := t.resolve query.origin
  let via := query.via.map t.resolve
  let destination := t.resolve query.destination
  let bare := TripsAnswer.bare (t.header now)
  if origin.isAmbiguous || via.any Resolution.isAmbiguous || destination.isAmbiguous then
    bare (.ambiguous origin.candidates ((via.map Resolution.candidates).getD [])
      destination.candidates)
  else
    match origin, via, destination with
    | .found o, none, .found d => t.tripsBetween now query options o none d
    | .found o, some (.found v), .found d => t.tripsBetween now query options o (some v) d
    | .found _, none, _ => bare .unknownDestination
    | .found _, some (.found _), _ => bare .unknownDestination
    | .found _, some _, _ => bare .unknownVia
    | _, _, _ => bare .unknownOrigin

/-- The answer to the continuation of a query in one direction, and the continuation afterwards. -/
def more (t : Timetable) (now : Stamp) (c : Continuation) (later : Bool) :
    Except Failure TripsAnswer × Continuation :=
  match c.cursor later with
  | none =>
    (.ok { TripsAnswer.bare (t.header now) .noTrips with
      origin := some c.query.origin
      via := c.query.via
      destination := some c.query.destination }, c)
  | some cursor =>
    match t.pageAt cursor with
    | .error failure => (.error failure, c)
    | .ok (n, page) =>
      let trips := serve now page c.query.origin c.query.via c.query.destination c.options
      (.ok (.found (t.header now) c.query.origin c.query.via c.query.destination none trips),
        c.advance later (t.cursorFrom n later))

end Timetable

end Itinerary
