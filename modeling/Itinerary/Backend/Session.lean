import Itinerary.Backend.Basic
import Itinerary.Trip.Identity

/-!
# Sessions

What somebody keeps who asks a backend one question after the other: how the last query goes on, the
trips of the last page, and every trip seen so far, each once. A question that fails leaves the
trips alone; going on moves the continuation even where it fails. A session is on the side of the
client: no handler keeps one, and here the test driver goes through it.
-/

namespace Itinerary

/-- What is kept between two questions. -/
structure Session where
  continuation : Option Continuation
  /-- The trips of the last page. -/
  page : List Trip
  /-- The trips that were put together page by page. -/
  seen : List Trip

namespace Session

/-- Nothing was asked yet. -/
def start : Session := ⟨none, [], []⟩

/-- The answer's trips are the last page; a continuation that it does not give stays as it was. -/
def turn (s : Session) (answer : TripsAnswer) : Session :=
  { s with continuation := answer.continuation <|> s.continuation, page := answer.trips }

/-- Asks for trips. -/
def trips (s : Session) (b : Backend) (query : Query) (options : Options) :
    Except Failure TripsAnswer × Session :=
  match b.trips query options with
  | .ok answer => (.ok answer, s.turn answer)
  | .error failure => (.error failure, s)

/-- Goes on with the last query, if there is a way. -/
def more? (s : Session) (b : Backend) (later : Bool) :
    Option ((Except Failure TripsAnswer × Continuation) × Session) :=
  s.continuation.map fun c =>
    let (answer, next) := b.more c later
    let page := match answer with
      | .ok a => a.trips
      | .error _ => s.page
    ((answer, next), { s with continuation := some next, page })

/-- Puts the last page to the trips seen before. -/
def merge (s : Session) : Session := { s with seen := Trip.mergePage s.seen s.page }

/-- Asks for the details of a trip of the last page, if there is one at the place. -/
def details? (s : Session) (b : Backend) (index : Nat) :
    Option (Except Failure Trip × Session) :=
  s.page[index]?.map fun t =>
    match b.details t with
    | .ok next => (.ok next, { s with page := s.page.set index next })
    | .error failure => (.error failure, s)

end Session

end Itinerary
