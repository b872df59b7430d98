import Itinerary.Answer.Header
import Itinerary.Place.Location

/-!
# Answers with places

Suggestions for a text come with the weight that the backend gives them and are ordered by it, the
heaviest first; suggestions of one weight keep the backend's order. Places around another one are
ordered by distance.
-/

namespace Itinerary

open Time (Stamp)

/-- The outcome of a question that has no other than these two. -/
inductive SuggestStatus where
  | ok
  | serviceDown
  deriving DecidableEq

namespace SuggestStatus

def all : List SuggestStatus := [ok, serviceDown]

def name : SuggestStatus → String
  | ok => "OK"
  | serviceDown => "SERVICE_DOWN"

def toJson (s : SuggestStatus) : Json := .str s.name

def reader : Json.Reader SuggestStatus := .variant (all.map fun s => (s.name, s))

end SuggestStatus

/-- A suggested place and its weight. -/
structure Suggestion where
  location : Location
  priority : Int32
  deriving DecidableEq

namespace Suggestion

def toJson (s : Suggestion) : Json :=
  .obj [("location", s.location.toJson), ("priority", .int s.priority.toInt)]

def fields : Json.Fields Suggestion :=
  Suggestion.mk <$> .required "location" Location.reader <*> .defaulted "priority" .int32 0

def reader : Json.Reader Suggestion := .record fields

/-- The heaviest first; of one weight, in the given order. -/
def ranked (suggestions : List Suggestion) : List Suggestion :=
  suggestions.mergeSort fun a b => b.priority ≤ a.priority

end Suggestion

/-- An answer with suggested places. -/
structure SuggestAnswer where
  header : Header
  status : SuggestStatus
  suggestions : List Suggestion

namespace SuggestAnswer

/-- The answer with some suggestions, which are ordered here. -/
def found (header : Header) (suggestions : List Suggestion) : SuggestAnswer :=
  ⟨header, .ok, Suggestion.ranked suggestions⟩

def locations (a : SuggestAnswer) : List Location := a.suggestions.map Suggestion.location

def toJson (a : SuggestAnswer) : Json :=
  .obj [("header", a.header.toJson), ("status", a.status.toJson),
    ("suggested", .list Suggestion.toJson a.suggestions)]

def fields : Json.Fields SuggestAnswer :=
  SuggestAnswer.mk <$> .required "header" Header.reader <*>
    .required "status" SuggestStatus.reader <*>
    .required "suggested" (.list Suggestion.reader)

def reader : Json.Reader SuggestAnswer := .record fields

end SuggestAnswer

/-- The outcome of a question for places around another one. -/
inductive NearbyStatus where
  | ok
  /-- It is not known where the other place is. -/
  | invalidId
  | serviceDown
  deriving DecidableEq

namespace NearbyStatus

def all : List NearbyStatus := [ok, invalidId, serviceDown]

def name : NearbyStatus → String
  | ok => "OK"
  | invalidId => "INVALID_ID"
  | serviceDown => "SERVICE_DOWN"

def toJson (s : NearbyStatus) : Json := .str s.name

def reader : Json.Reader NearbyStatus := .variant (all.map fun s => (s.name, s))

end NearbyStatus

/-- An answer with places, the nearest first. -/
structure NearbyAnswer where
  header : Header
  status : NearbyStatus
  locations : List Location

namespace NearbyAnswer

def toJson (a : NearbyAnswer) : Json :=
  .obj [("header", a.header.toJson), ("status", a.status.toJson),
    ("locations", .list Location.toJson a.locations)]

def fields : Json.Fields NearbyAnswer :=
  NearbyAnswer.mk <$> .required "header" Header.reader <*>
    .required "status" NearbyStatus.reader <*> .required "locations" (.list Location.reader)

def reader : Json.Reader NearbyAnswer := .record fields

end NearbyAnswer

end Itinerary
