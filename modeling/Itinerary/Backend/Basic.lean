import Itinerary.Answer.Departures
import Itinerary.Answer.Places
import Itinerary.Answer.Trips
import Itinerary.Backend.Failure

/-!
# Backends

What every source of itineraries can be asked. A backend is a value: nothing in it changes while it
answers. The one thing that moves on is the continuation of a query, and `Backend.more` gives back
the continuation that holds afterwards, also where it fails.
-/

namespace Itinerary

open Time (Moment)

/-- A source of itineraries. -/
structure Backend where
  network : NetworkId
  supports : Capability → Bool
  /-- Places for a text, of certain kinds and at most so many. -/
  suggest : String → List PlaceKind → Nat → Except Failure SuggestAnswer
  trips : Query → Options → Except Failure TripsAnswer
  /-- The page behind or in front of the pages seen so far, and the continuation afterwards. -/
  more : Continuation → Bool → Except Failure TripsAnswer × Continuation
  /-- Departures from the stop with an id, not before a time and at most so many for each stop; on
  demand also those from the stops that are equivalent to it. -/
  departures : String → Option Moment → Nat → Bool → Except Failure DeparturesAnswer
  /-- Places of certain kinds around another one, at most so many metres away (no bound for zero)
  and at most so many. -/
  nearby : List PlaceKind → Location → UInt32 → Nat → Except Failure NearbyAnswer
  /-- The trip with its details. -/
  details : Trip → Except Failure Trip

end Itinerary
