import Itinerary.Json.Reader
import Itinerary.Violation

/-!
# Failures of backends

What goes wrong between the question and the answer. That a place is unknown or ambiguous is no
failure but the status of an answer.
-/

namespace Itinerary

/-- Something that a backend may be able to do. -/
inductive Capability where
  | suggest
  | trips
  | tripDetails
  | departures
  | nearby
  deriving DecidableEq

namespace Capability

def all : List Capability := [suggest, trips, tripDetails, departures, nearby]

def name : Capability → String
  | suggest => "suggest"
  | trips => "trips"
  | tripDetails => "trip_details"
  | departures => "departures"
  | nearby => "nearby"

/-- The capability as messages call it. -/
def word : Capability → String
  | suggest => "Suggest"
  | trips => "Trips"
  | tripDetails => "TripDetails"
  | departures => "Departures"
  | nearby => "Nearby"

def toJson (c : Capability) : Json := .str c.name

def reader : Json.Reader Capability := .variant (all.map fun c => (c.name, c))

end Capability

/-- Why a file could not be read. -/
inductive FileTrouble where
  | notFound
  /-- The bytes are not text. -/
  | notText
  | other
  deriving DecidableEq

/-- Why a backend has no answer. -/
inductive Failure where
  /-- The backend was not reached. -/
  | transport (detail : String)
  /-- The backend answered something else than expected; the beginning of it is kept. -/
  | format (context detail : String) (body : Option String)
  /-- The backend answered with an error status. -/
  | api (status : Nat) (detail : String)
  | file (path : String) (trouble : FileTrouble) (detail : String)
  | unauthorized
  | rateLimited
  /-- The backend cannot go on from a continuation. -/
  | invalidContext (detail : String)
  | unsupported (capability : Capability)
  /-- The backend's data breaks a rule of the model. -/
  | violation (violation : Violation)

namespace Failure

/-- How many characters of an unexpected answer are kept. -/
def excerptLength : Nat := 500

/-- The failure to understand an answer. -/
def notUnderstood (context detail : String) (body : Option String) : Failure :=
  .format context detail (body.map fun b => String.ofList (b.toList.take excerptLength))

/-- What is kept of an unexpected answer. -/
def body? : Failure → Option String
  | .format _ _ body => body
  | _ => none

/-- Whether the failure comes of a trouble on another level, which it carries along. -/
def isCaused : Failure → Bool
  | .transport _ => true
  | .file _ _ _ => true
  | _ => false

/-- The failure in words. -/
def message : Failure → String
  | .transport detail => "transport error: " ++ detail
  | .format context detail body =>
    "unexpected response from " ++ context ++ ": " ++ detail ++
      match body with
      | some b => " (body: " ++ b ++ ")"
      | none => ""
  | .api status detail => "API error " ++ toString status ++ ": " ++ detail
  | .file path _ detail => "failed to read " ++ Text.quoted path ++ ": " ++ detail
  | .unauthorized => "unauthorized (invalid API key)"
  | .rateLimited => "rate limited by backend"
  | .invalidContext detail => "invalid pagination context: " ++ detail
  | .unsupported capability => "operation not supported: " ++ capability.word
  | .violation v => v.message

end Failure

end Itinerary
