import Itinerary.Backend.Basic
import Itinerary.Web.Form
import Itinerary.Web.Problem
import Itinerary.Web.View

/-!
# Answering requests

One function for each thing that a client can ask, from the request as a value to the reply as a
value. The server keeps nothing between two requests: the continuation of a query goes out as a
token with the reply and comes back with the next request.
-/

namespace Itinerary.Web

open Time (Moment)

/-! ## Places -/

/-- A question for places that a text may mean. -/
structure SuggestRequest where
  text : String
  limit : Option Nat

/-- A question for places around a coordinate. -/
structure NearbyRequest where
  lat : Float
  lon : Float
  maxDistance : Option UInt32
  limit : Option Nat

def SuggestRequest.ofForm? (f : Form) : Option SuggestRequest := do
  let text ← f.required "q" some
  let limit ← f.maybe "limit" count?
  pure ⟨text, limit⟩

def NearbyRequest.ofForm? (f : Form) : Option NearbyRequest := do
  let lat ← f.required "lat" Decimal.float?
  let lon ← f.required "lon" Decimal.float?
  let maxDistance ← f.maybe "max_distance" metres?
  let limit ← f.maybe "limit" count?
  pure ⟨lat, lon, maxDistance, limit⟩

/-- A reply with places. -/
structure PlacesReply where
  locations : List Location

def PlacesReply.toJson (r : PlacesReply) : Json :=
  .obj [("locations", .list Location.toJson r.locations)]

/-- Places for a text, ten unless asked otherwise and never more than fifty. -/
def suggest (b : Backend) (r : SuggestRequest) : Except Problem PlacesReply :=
  let text := Text.trim r.text
  if text = "" then .ok ⟨[]⟩
  else
    match b.suggest text [] (min 50 (r.limit.getD 10)) with
    | .ok answer => .ok ⟨answer.locations⟩
    | .error failure => .error (.ofFailure failure)

/-- Places around a coordinate, twenty unless asked otherwise and never more than a hundred. -/
def nearby (b : Backend) (r : NearbyRequest) : Except Problem PlacesReply :=
  match Point.ofDegrees r.lat r.lon with
  | .error violation => .error (.badRequest violation.message)
  | .ok point =>
    match b.nearby [] (.atPoint point) (r.maxDistance.getD 0) (min 100 (r.limit.getD 20)) with
    | .error failure => .error (.ofFailure failure)
    | .ok answer =>
      match answer.status with
      | .ok => .ok ⟨answer.locations⟩
      | .invalidId => .error (.badRequest ("No locations known around " ++ point.text))
      | .serviceDown => .error .serviceDown

/-! ## Departures -/

/-- A question for departures from some stops. -/
structure DeparturesRequest where
  /-- The ids of the stops with commas between them. -/
  stops : String
  limit : Option Nat
  equivalent : Option Bool
  time : Option Int64

def DeparturesRequest.ofForm? (f : Form) : Option DeparturesRequest := do
  let stops ← f.required "stop" some
  let limit ← f.maybe "limit" count?
  let equivalent ← f.maybe "equivs" truth?
  let time ← f.maybe "time" instant?
  pure ⟨stops, limit, equivalent, time⟩

/-- The ids of the stops, without blanks around them and without empty ones. -/
def DeparturesRequest.ids (r : DeparturesRequest) : List String :=
  ((Form.pieces ',' r.stops.toList).map fun piece => String.ofList (Text.trimChars piece)).filter
    (· ≠ "")

/-- A reply with departures. -/
structure DeparturesReply where
  boards : List StationBoard
  /-- The ids that the backend does not know. -/
  unknown : List String

namespace DeparturesReply

def toJson (r : DeparturesReply) : Json :=
  .obj [("stations", .list StationBoard.toJson r.boards),
    ("invalid_stops", .list .str r.unknown)]

/-- Boards added to other ones, each unless there is one of a place with the same identity. -/
def addBoards (known : List StationBoard) : List StationBoard → List StationBoard
  | [] => known
  | b :: rest =>
    if known.any (·.location.identity = b.location.identity) then addBoards known rest
    else addBoards (known ++ [b]) rest

/-- Adds the answers for some stops to a reply; the first of them that is none ends it. -/
def collect (ask : String → Except Failure DeparturesAnswer) :
    DeparturesReply → List String → Except Problem DeparturesReply
  | reply, [] => .ok reply
  | reply, id :: rest =>
    match ask id with
    | .error failure => .error (.ofFailure failure)
    | .ok answer =>
      match answer.status with
      | .ok => collect ask { reply with boards := addBoards reply.boards answer.boards } rest
      | .invalidStation => collect ask { reply with unknown := reply.unknown ++ [id] } rest
      | .serviceDown => .error .serviceDown

end DeparturesReply

/-- Departures from some stops, ten for each unless asked otherwise and never more than a
hundred. -/
def departures (b : Backend) (r : DeparturesRequest) : Except Problem DeparturesReply :=
  if r.ids.isEmpty then .error (.badRequest "No stop given")
  else
    let time : Option Moment := r.time.map fun instant => ⟨instant, .system⟩
    let ask id := b.departures id time (min 100 (r.limit.getD 10)) (r.equivalent.getD false)
    match DeparturesReply.collect ask ⟨[], []⟩ r.ids with
    | .error problem => .error problem
    | .ok reply =>
      if reply.boards.isEmpty && reply.unknown.length = r.ids.length then
        .error (.notFound ("Unknown stop: " ++ r.stops))
      else .ok reply

/-! ## Trips -/

/-- A question for trips. -/
structure TripsRequest where
  query : Query
  options : Options

namespace TripsRequest

def fields : Json.Fields TripsRequest :=
  TripsRequest.mk <$> .required "query" Query.reader <*>
    .defaulted "options" Options.reader .default

def reader : Json.Reader TripsRequest := .record fields

/-- The question that some bytes are as a JSON text. -/
def ofBytes (bytes : List UInt8) : Except Json.Fault TripsRequest :=
  let document := Json.scanBytes bytes
  Json.Reader.document reader document.source document.ended

/-- The first end of the query about which nothing is said. -/
def missingEnd? (r : TripsRequest) : Option String :=
  let blank (l : Location) := !l.isIdentified && !l.hasName
  if blank r.query.origin then some "from"
  else if r.query.via.any blank then some "via"
  else if blank r.query.destination then some "to"
  else none

end TripsRequest

/-- A question for the trips before or after those of an earlier reply. -/
structure MoreRequest where
  token : String
  later : Bool

namespace MoreRequest

def fields : Json.Fields MoreRequest :=
  MoreRequest.mk <$> .required "context" .text <*> .defaulted "later" .bool true

def reader : Json.Reader MoreRequest := .record fields

end MoreRequest

/-- A reply with trips. -/
structure TripsReply where
  status : TripsStatus
  origin : Option Location
  via : Option Location
  destination : Option Location
  trips : List TripView
  /-- The token of the continuation. -/
  token : Option String
  canGoEarlier : Bool
  canGoLater : Bool
  deriving DecidableEq

namespace TripsReply

/-- The reply with an answer and the continuation to hand out with it. -/
def of (a : TripsAnswer) (c : Option Continuation) : TripsReply where
  status := a.status
  origin := a.origin
  via := a.via
  destination := a.destination
  trips := a.trips.map TripView.of
  token := c.map Token.encode
  canGoEarlier := c.any Continuation.canGoEarlier
  canGoLater := c.any Continuation.canGoLater

def toJson (r : TripsReply) : Json :=
  .obj [("status", r.status.toJson), ("from", .opt Location.toJson r.origin),
    ("via", .opt Location.toJson r.via), ("to", .opt Location.toJson r.destination),
    ("trips", .list TripView.toJson r.trips), ("context", .optStr r.token),
    ("can_query_earlier", .bool r.canGoEarlier), ("can_query_later", .bool r.canGoLater)]

end TripsReply

/-- Trips for a query. -/
def trips (b : Backend) (r : TripsRequest) : Except Problem TripsReply :=
  match r.missingEnd? with
  | some role =>
    .error (.badRequest ("Location '" ++ role ++ "' needs an id, a coordinate or a name"))
  | none =>
    match b.trips r.query r.options with
    | .error failure => .error (.ofFailure failure)
    | .ok answer => .ok (.of answer answer.continuation)

/-- Trips before or after those of an earlier reply. -/
def more (b : Backend) (r : MoreRequest) : Except Problem TripsReply :=
  match Token.decode r.token with
  | .error defect => .error (.badRequest defect.message)
  | .ok c =>
    match b.more c r.later with
    | (.error failure, _) => .error (.ofFailure failure)
    | (.ok answer, next) => .ok (.of answer (some next))

end Itinerary.Web
