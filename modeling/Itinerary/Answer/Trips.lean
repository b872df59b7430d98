import Itinerary.Answer.Header
import Itinerary.Query.Continuation
import Itinerary.Trip.Document

/-!
# Answers with trips

That a place is unknown or stands for several is an outcome of planning and no failure: it is a
status of the answer. Only an answer with the status `ok` holds trips, and only the first answer to
a query holds a continuation.
-/

namespace Itinerary

open Time (Stamp)

/-- The outcome of a query. -/
inductive TripsStatus where
  | ok
  | noTrips
  /-- Some ends stand for several places: the places for each of them. -/
  | ambiguous (origin via destination : List Location)
  | unknownOrigin
  | unknownVia
  | unknownDestination
  | invalidDate
  | tooClose
  | serviceDown
  deriving DecidableEq

namespace TripsStatus

def code : TripsStatus → String
  | ok => "OK"
  | noTrips => "NO_TRIPS"
  | ambiguous .. => "AMBIGUOUS"
  | unknownOrigin => "UNKNOWN_FROM"
  | unknownVia => "UNKNOWN_VIA"
  | unknownDestination => "UNKNOWN_TO"
  | invalidDate => "INVALID_DATE"
  | tooClose => "TOO_CLOSE"
  | serviceDown => "SERVICE_DOWN"

def toJson (s : TripsStatus) : Json :=
  .obj <| ("code", .str s.code) :: match s with
    | ambiguous origin via destination =>
      [("from", .list Location.toJson origin), ("via", .list Location.toJson via),
        ("to", .list Location.toJson destination)]
    | _ => []

def ambiguousFields : Json.Fields TripsStatus :=
  ambiguous <$> .defaulted "from" (.list Location.reader) [] <*>
    .defaulted "via" (.list Location.reader) [] <*> .defaulted "to" (.list Location.reader) []

/-- The outcomes without places. -/
def plain : List TripsStatus :=
  [ok, noTrips, unknownOrigin, unknownVia, unknownDestination, invalidDate, tooClose, serviceDown]

/-- The reader for the status that a code names. -/
def readerOf (code : String) : Except Json.Fault (Json.Reader TripsStatus) :=
  if code = "AMBIGUOUS" then .ok (.record ambiguousFields)
  else
    match plain.find? (·.code = code) with
    | some status => .ok (.bare status)
    | none => .error (.unknownVariant code)

def reader : Json.Reader TripsStatus := .tagged "code" readerOf

end TripsStatus

/-- An answer with trips. -/
structure TripsAnswer where
  header : Header
  status : TripsStatus
  /-- The ends as the backend understood them. -/
  origin : Option Location
  via : Option Location
  destination : Option Location
  continuation : Option Continuation
  trips : List Trip

namespace TripsAnswer

/-- An answer that is only an outcome. -/
def bare (header : Header) (status : TripsStatus) : TripsAnswer :=
  ⟨header, status, none, none, none, none, []⟩

/-- An answer with trips between places. -/
def found (header : Header) (origin : Location) (via : Option Location) (destination : Location)
    (continuation : Option Continuation) (trips : List Trip) : TripsAnswer :=
  ⟨header, .ok, some origin, via, some destination, continuation, trips⟩

def isOk (a : TripsAnswer) : Bool := a.status = .ok

def toJson (a : TripsAnswer) : Json :=
  .obj [("header", a.header.toJson), ("status", a.status.toJson),
    ("from", .opt Location.toJson a.origin), ("via", .opt Location.toJson a.via),
    ("to", .opt Location.toJson a.destination),
    ("context", .opt Continuation.toJson a.continuation), ("trips", .list Trip.toJson a.trips)]

def fields (now : Stamp) : Json.Fields TripsAnswer :=
  TripsAnswer.mk <$> .required "header" Header.reader <*>
    .required "status" TripsStatus.reader <*> .maybe "from" Location.reader <*>
    .maybe "via" Location.reader <*> .maybe "to" Location.reader <*>
    .maybe "context" Continuation.reader <*> .defaulted "trips" (.list (Trip.reader now)) []

def reader (now : Stamp) : Json.Reader TripsAnswer := .record (fields now)

end TripsAnswer

end Itinerary
