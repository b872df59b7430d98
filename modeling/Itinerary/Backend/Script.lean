import Itinerary.Backend.Basic
import Itinerary.Query.Continuation

/-!
# Rehearsed backends

A stand-in for a backend, to test what becomes of the answers of backends. No service runs on it:
only the test driver uses it, which writes down what a backend is to say and then sees what is made
of that.

A rehearsed backend says what its script says, whatever it is asked. It is able to do what the
script has an answer for; every other question fails as one that is not supported. A script may
claim to know the details of trips, but it holds none.
-/

namespace Itinerary

/-- The answers of a backend, written down beforehand. -/
structure Script where
  network : NetworkId
  suggest : Option (Except Failure SuggestAnswer)
  trips : Option (Except Failure TripsAnswer)
  more : Option (Except Failure TripsAnswer)
  /-- The cursor that a continuation takes in whatever direction it is asked to go on, if its
  cursors change at all. -/
  cursor : Option (Option String)
  /-- The departures from the stop with each id. -/
  departures : Option (List (String × Except Failure DeparturesAnswer))
  nearby : Option (Except Failure NearbyAnswer)
  /-- Whether the script says that it knows the details of trips. -/
  claimsDetails : Bool

namespace Script

/-- What the script has answers for, or says it has. -/
def supports (s : Script) : Capability → Bool
  | .suggest => s.suggest.isSome
  | .trips => s.trips.isSome
  | .tripDetails => s.claimsDetails
  | .departures => s.departures.isSome
  | .nearby => s.nearby.isSome

/-- The continuation after going on in a direction. -/
def advanced (s : Script) (c : Continuation) (later : Bool) : Continuation :=
  match s.cursor with
  | some cursor => c.advance later cursor
  | none => c

/-- The backend that follows the script. -/
def backend (s : Script) : Backend where
  network := s.network
  supports := s.supports
  suggest _ _ _ := s.suggest.getD (.error (.unsupported .suggest))
  trips _ _ := s.trips.getD (.error (.unsupported .trips))
  more c later := (s.more.getD (.error (.unsupported .trips)), s.advanced c later)
  departures id _ _ _ :=
    ((s.departures.getD []).lookup id).getD (.error (.unsupported .departures))
  nearby _ _ _ _ := s.nearby.getD (.error (.unsupported .nearby))
  details _ := .error (.unsupported .tripDetails)

end Script

end Itinerary
