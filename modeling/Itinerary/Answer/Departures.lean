import Itinerary.Answer.Header
import Itinerary.Capacity
import Itinerary.Leg.Ride

/-!
# Answers with departures

Departures are grouped by the stop that they leave from and ordered by their times, a predicted time
counting before a planned one; departures without a time come first.
-/

namespace Itinerary

open Time (Moment)

/-- A departure from a stop. -/
structure Departure where
  planned : Option Moment
  predicted : Option Moment
  line : Line
  position : Option Position
  destination : Option Location
  message : Option String
  journey : Option JourneyRef
  capacity : Option Capacity
  deriving DecidableEq

namespace Departure

/-- A departure of a line, if one of its times is known. -/
def build (planned predicted : Option Moment) (line : Line) (destination : Option Location) :
    Except Violation Departure :=
  if planned.isNone && predicted.isNone then .error (.missingTime "departure time")
  else .ok ⟨planned, predicted, line, none, destination, none, none, none⟩

/-- The predicted time, else the planned one. -/
def time (d : Departure) : Option Moment := d.predicted <|> d.planned

/-- Whether a departure may stand in front of another one. -/
def upTo (a b : Departure) : Bool :=
  match a.time, b.time with
  | none, _ => true
  | some _, none => false
  | some x, some y => !y.before x

/-- Departures by time, those of one time in the given order. -/
def sorted (departures : List Departure) : List Departure := departures.mergeSort upTo

def toJson (d : Departure) : Json :=
  .obj [("planned_time", .opt Moment.toJson d.planned),
    ("predicted_time", .opt Moment.toJson d.predicted), ("line", d.line.toJson),
    ("position", .opt Position.toJson d.position),
    ("destination", .opt Location.toJson d.destination), ("message", .optStr d.message),
    ("journey_ref", .opt JourneyRef.toJson d.journey),
    ("capacity", .opt Capacity.toJson d.capacity)]

def fields : Json.Fields Departure :=
  Departure.mk <$> .maybe "planned_time" Moment.reader <*>
    .maybe "predicted_time" Moment.reader <*> .required "line" Line.reader <*>
    .maybe "position" Position.reader <*> .maybe "destination" Location.reader <*>
    .maybe "message" .text <*> .maybe "journey_ref" JourneyRef.reader <*>
    .maybe "capacity" Capacity.reader

def reader : Json.Reader Departure := .record fields

end Departure

/-- A line at a stop and where it is headed. -/
structure Service where
  line : Line
  destination : Option Location
  deriving DecidableEq

namespace Service

/-- Whether two descriptions are of the same line headed to the same place. -/
def same (a b : Service) : Bool := a.line.same b.line && a.destination = b.destination

/-- The services of some departures, each where it comes up first. -/
def distinct (departures : List Departure) : List Service :=
  departures.foldl (fun known d =>
    let service : Service := ⟨d.line, d.destination⟩
    if known.any (·.same service) then known else known ++ [service]) []

def toJson (s : Service) : Json :=
  .obj [("line", s.line.toJson), ("destination", .opt Location.toJson s.destination)]

def fields : Json.Fields Service :=
  Service.mk <$> .required "line" Line.reader <*> .maybe "destination" Location.reader

def reader : Json.Reader Service := .record fields

end Service

/-- The departures from one stop. -/
structure StationBoard where
  location : Location
  departures : List Departure
  services : Option (List Service)
  deriving DecidableEq

namespace StationBoard

/-- The board of a stop with some departures, which are ordered here. -/
def build (location : Location) (departures : List Departure) : StationBoard :=
  ⟨location, Departure.sorted departures, none⟩

def toJson (b : StationBoard) : Json :=
  .obj [("location", b.location.toJson), ("departures", .list Departure.toJson b.departures),
    ("lines", .opt (.list Service.toJson) b.services)]

def fields : Json.Fields StationBoard :=
  StationBoard.mk <$> .required "location" Location.reader <*>
    .required "departures" (.list Departure.reader) <*> .maybe "lines" (.list Service.reader)

def reader : Json.Reader StationBoard := .record fields

end StationBoard

/-- The outcome of a question for departures. -/
inductive DeparturesStatus where
  | ok
  | invalidStation
  | serviceDown
  deriving DecidableEq

namespace DeparturesStatus

def all : List DeparturesStatus := [ok, invalidStation, serviceDown]

def name : DeparturesStatus → String
  | ok => "OK"
  | invalidStation => "INVALID_STATION"
  | serviceDown => "SERVICE_DOWN"

def toJson (s : DeparturesStatus) : Json := .str s.name

def reader : Json.Reader DeparturesStatus := .variant (all.map fun s => (s.name, s))

end DeparturesStatus

/-- An answer with departures. -/
structure DeparturesAnswer where
  header : Header
  status : DeparturesStatus
  boards : List StationBoard

namespace DeparturesAnswer

/-- The board of the stop with an id. -/
def board? (a : DeparturesAnswer) (id : String) : Option StationBoard :=
  a.boards.find? (·.location.id = some id)

def toJson (a : DeparturesAnswer) : Json :=
  .obj [("header", a.header.toJson), ("status", a.status.toJson),
    ("station_departures", .list StationBoard.toJson a.boards)]

def fields : Json.Fields DeparturesAnswer :=
  DeparturesAnswer.mk <$> .required "header" Header.reader <*>
    .required "status" DeparturesStatus.reader <*>
    .required "station_departures" (.list StationBoard.reader)

def reader : Json.Reader DeparturesAnswer := .record fields

end DeparturesAnswer

end Itinerary
