import Itinerary.Backend.Basic
import Itinerary.Timetable.Departures
import Itinerary.Timetable.Paging
import Itinerary.Trip.Identity

/-!
# A timetable as a backend

A timetable answers every question that a backend can be asked. Answers and trips bear the time at
which they are made, which is a parameter here.
-/

namespace Itinerary.Timetable

open Time (Stamp)

/-- The trip with the details that the timetable has under its id, or with none. -/
def detailed (t : Timetable) (now : Stamp) (trip : Trip) : Trip :=
  trip.withDetails now ((t.details.lookup trip.id).getD [])

/-- The backend that answers out of a timetable at a time. -/
def backend (t : Timetable) (now : Stamp) : Backend where
  network := t.network
  supports _ := true
  suggest text kinds limit := .ok (t.suggest now text kinds limit)
  trips query options := .ok (t.trips now query options)
  more := t.more now
  departures stopId time limit equivalent :=
    .ok (t.departuresFrom now stopId time limit equivalent)
  nearby kinds l maxDistance limit := .ok (t.nearby now kinds l maxDistance limit)
  details trip := .ok (t.detailed now trip)

/-- The timetable in the file at a path, given the bytes of the file if there is one. -/
def load (path : String) (content : Option ByteArray) : Except Failure Timetable :=
  match content with
  | none => .error (.file path .notFound "no such file")
  | some bytes =>
    match String.fromUTF8? bytes with
    | none => .error (.file path .notText "not UTF-8")
    | some text =>
      (ofText text).mapError fun fault => .notUnderstood path fault.message (some text)

end Itinerary.Timetable
