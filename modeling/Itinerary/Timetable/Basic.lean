import Itinerary.Answer.Departures
import Itinerary.Json.Scan
import Itinerary.Trip.Document

/-!
# Timetables

Canned answers of one network: its places, its trips in pages from early to late, the departures of
each stop and the details of each trip. Departures and details are found by texts; they are kept in
the order of these texts, with one entry under each (`Json.byKey`).
-/

namespace Itinerary

/-- A trip before it is built for a query. -/
structure StoredTrip where
  id : Option String
  legs : List Leg
  changes : Option UInt32
  fares : List Fare
  capacity : Option Capacity
  deriving DecidableEq

namespace StoredTrip

def toJson (t : StoredTrip) : Json :=
  .obj [("id", .optStr t.id), ("legs", .list Leg.toJson t.legs),
    ("num_changes", .opt (fun n => .int n.toNat) t.changes),
    ("fares", .list Fare.toJson t.fares), ("capacity", .opt Capacity.toJson t.capacity)]

def fields : Json.Fields StoredTrip :=
  StoredTrip.mk <$> .maybe "id" .text <*> .required "legs" (.list Leg.reader) <*>
    .maybe "num_changes" .uint32 <*> .defaulted "fares" (.list Fare.reader) [] <*>
    .maybe "capacity" Capacity.reader

def reader : Json.Reader StoredTrip := .record fields

end StoredTrip

/-- One page of trips. -/
structure Page where
  trips : List StoredTrip
  deriving DecidableEq

namespace Page

def toJson (p : Page) : Json := .obj [("trips", .list StoredTrip.toJson p.trips)]

def fields : Json.Fields Page := Page.mk <$> .required "trips" (.list StoredTrip.reader)

def reader : Json.Reader Page := .record fields

end Page

/-- The canned answers of one network. -/
structure Timetable where
  network : NetworkId
  locations : List Location
  /-- The departures under the id of each stop. -/
  departures : List (String × List Departure)
  /-- The pages of trips, the earliest first. -/
  pages : List Page
  /-- The number of the page that answers a new query. -/
  initialPage : Nat
  /-- The chances of the changes under the id of each trip. -/
  details : List (String × List Transfer)

namespace Timetable

def toJson (t : Timetable) : Json :=
  .obj [("network", t.network.toJson), ("locations", .list Location.toJson t.locations),
    ("departures", .obj (t.departures.map fun (id, ds) => (id, .list Departure.toJson ds))),
    ("pages", .list Page.toJson t.pages), ("initial_page", .int t.initialPage),
    ("details", .obj (t.details.map fun (id, ts) => (id, .list Transfer.toJson ts)))]

def fields : Json.Fields Timetable :=
  Timetable.mk <$> .required "network" NetworkId.reader <*>
    .defaulted "locations" (.list Location.reader) [] <*>
    .defaulted "departures" (.map Json.byKey (.entries (.list Departure.reader))) [] <*>
    .defaulted "pages" (.list Page.reader) [] <*> .defaulted "initial_page" .count 0 <*>
    .defaulted "details" (.map Json.byKey (.entries (.list Transfer.reader))) []

def reader : Json.Reader Timetable := .record fields

/-- The timetable in a JSON text. -/
def ofText (text : String) : Except Json.Fault Timetable :=
  let document := Json.scan text
  Json.Reader.document reader document.source document.ended

end Timetable

end Itinerary
