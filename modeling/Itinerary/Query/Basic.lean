import Itinerary.Place.Location
import Itinerary.Query.Options
import Itinerary.Time.Moment

/-!
# Trip queries

From where to where, perhaps by way of a third place, and whether the time is the earliest departure
or the latest arrival.
-/

namespace Itinerary

open Time (Moment)

/-- Which end of the trip the time of a query bounds. -/
inductive Bound where
  | departAfter
  | arriveBy
  deriving DecidableEq

namespace Bound

def all : List Bound := [departAfter, arriveBy]

def name : Bound → String
  | departAfter => "depart_after"
  | arriveBy => "arrive_by"

def toJson (b : Bound) : Json := .str b.name

def reader : Json.Reader Bound := .variant (all.map fun b => (b.name, b))

end Bound

/-- A question for trips. -/
structure Query where
  origin : Location
  via : Option Location
  destination : Location
  time : Moment
  bound : Bound
  deriving DecidableEq

namespace Query

def toJson (q : Query) : Json :=
  .obj [("from", q.origin.toJson), ("via", .opt Location.toJson q.via),
    ("to", q.destination.toJson), ("time", q.time.toJson), ("direction", q.bound.toJson)]

def fields : Json.Fields Query :=
  Query.mk <$> .required "from" Location.reader <*> .maybe "via" Location.reader <*>
    .required "to" Location.reader <*> .required "time" Moment.reader <*>
    .defaulted "direction" Bound.reader .departAfter

def reader : Json.Reader Query := .record fields

end Query

end Itinerary
