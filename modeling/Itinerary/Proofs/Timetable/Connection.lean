import Itinerary.Proofs.Place.Identity
import Itinerary.Proofs.Timetable.Continuing
import Itinerary.Proofs.Timetable.Window

/-!
# Where the trips of an answer run

A trip that answers a query starts and ends at places that meet the ends of the query as they were
resolved, and it comes by a place that meets the third one, if there is one (`Trip.Between`). This
holds of the first answer and of every later one (`Paging.trips_between`): going on never changes
the query (`Timetable.query_more`), and every page is searched for the same ends.

To meet is less than to be the same place. Places are compared by one text, so a place whose id is
written like the coordinate that was asked for is taken for it, and of places that cannot be
recognised nothing at all is said (`Paging.exists_trip_elsewhere`).
-/

namespace Itinerary

open Time (Stamp)

variable {t : Timetable} {now : Stamp} {origin destination : Location} {via : Option Location}
  {options : Options}

/-- A trip between two places, by way of a third one if it is given. -/
structure Trip.Between (trip : Trip) (origin : Location) (via : Option Location)
    (destination : Location) : Prop where
  start : trip.firstLeg.start.Meets origin
  finish : trip.lastLeg.finish.Meets destination
  via : ∀ v ∈ via, ∃ l ∈ trip.legs, l.start.Meets v ∨ l.finish.Meets v

/-- A trip whose legs connect the places runs between them, as far as places are recognised at all.
-/
theorem Trip.between_of_connects {trip : Trip}
    (connects : Leg.Connects trip.legs origin via destination) :
    trip.Between origin via destination where
  start := by
    obtain ⟨first, head, same⟩ := connects.first
    obtain rfl : trip.firstLeg = first :=
      Option.some.inj ((List.head?_eq_some_head trip.nonempty).symm.trans head)
    exact Location.identity_eq_iff.1 same
  finish := by
    obtain ⟨last, final, same⟩ := connects.last
    obtain rfl : trip.lastLeg = last :=
      Option.some.inj ((List.getLast?_eq_some_getLast trip.nonempty).symm.trans final)
    exact Location.identity_eq_iff.1 same
  via := by
    intro v given
    obtain ⟨l, mem, finish | start⟩ := connects.via v given
    · exact ⟨l, mem, .inr (Location.identity_eq_iff.1 finish)⟩
    · exact ⟨l, mem, .inl (Location.identity_eq_iff.1 start)⟩

namespace Timetable

/-- Every trip that a page serves runs between the places that were asked for. -/
theorem between_of_mem_serve {page : Page} {trip : Trip}
    (mem : trip ∈ serve now page origin via destination options) :
    trip.Between origin via destination := by
  have kept := (List.mem_filter.1 mem).2
  exact Trip.between_of_connects (Leg.connect_iff.1 (Bool.and_eq_true_iff.1 kept).1)

end Timetable

namespace Paging

variable {p : Paging} {turn : Turn} {query : Query}

/-- A query under way whose trips so far run between the ends of a query, and which goes on with
that query. -/
structure Keeps (query : Query) (p : Paging) : Prop where
  between : ∀ trip ∈ p.trips, trip.Between query.origin query.via query.destination
  asked : p.continuation.query = query

/-- A first answer keeps to the query of its continuation. -/
theorem keeps_start {answer : TripsAnswer} {c : Continuation}
    (between : ∀ trip ∈ answer.trips, trip.Between c.query.origin c.query.via c.query.destination) :
    (start t now answer c).Keeps c.query where
  between := by
    intro trip mem
    rw [start, trips, batches, List.map_singleton, List.flatten_singleton] at mem
    exact between trip mem
  asked := rfl

/-- The trips of one more answer run between the ends of the query that goes on. -/
theorem between_of_mem_more {c : Continuation} {later : Bool} {trip : Trip}
    (mem : trip ∈ tripsOf (t.more now c later).1) :
    trip.Between c.query.origin c.query.via c.query.destination := by
  cases given : c.cursor later with
  | none =>
    rw [t.more_of_cursor_none given] at mem
    exact nomatch mem
  | some cursor =>
    cases found : t.pageAt cursor with
    | error failure =>
      rw [t.more_of_pageAt_error given found] at mem
      exact nomatch mem
    | ok numbered =>
      rw [t.more_of_pageAt given found] at mem
      exact Timetable.between_of_mem_serve mem

/-- A turn brings the trips of one more answer, and none if it fails. -/
theorem trips_step (t : Timetable) (p : Paging) (turn : Turn) :
    (p.step t turn).trips =
      p.trips ++ tripsOf (t.more turn.now p.continuation turn.later).1 := by
  simp only [trips, batches, step, List.map_append, List.flatten_append, List.map_singleton,
    List.flatten_singleton]

/-- A step of `Keeps.run`: the query stays, and new trips run between its places. -/
theorem Keeps.step (keeps : p.Keeps query) (t : Timetable) (turn : Turn) :
    (p.step t turn).Keeps query where
  between := by
    intro trip mem
    rw [trips_step] at mem
    rcases List.mem_append.1 mem with before | now
    · exact keeps.between trip before
    · rw [← keeps.asked]
      exact between_of_mem_more now
  asked := (t.query_more _ _ _).trans keeps.asked

/-- However often someone goes on in either direction, the trips run between the places of the
query. -/
theorem Keeps.run (keeps : p.Keeps query) (t : Timetable) (turns : List Turn) :
    (p.run t turns).Keeps query := by
  induction turns generalizing p with
  | nil => exact keeps
  | cons turn turns ih => exact ih (keeps.step t turn)

/-- Every trip of the answer to a query and of all answers to its continuation, in any order of
directions, runs between the places that the ends of the query stand for. -/
theorem trips_between (t : Timetable) (now : Stamp) (query : Query) (options : Options)
    (ok : (t.trips now query options).status = .ok) :
    ∃ origin via destination c, t.Ends query origin via destination ∧
      (t.trips now query options).origin = some origin ∧
      (t.trips now query options).via = via ∧
      (t.trips now query options).destination = some destination ∧
      (t.trips now query options).continuation = some c ∧
      ∀ turns, ∀ trip ∈ ((start t now (t.trips now query options) c).run t turns).trips,
        trip.Between origin via destination := by
  obtain ⟨origin, via, destination, page, ends, first, found⟩ := t.trips_eq_found ok
  rw [found]
  refine ⟨origin, via, destination, _, ends, rfl, rfl, rfl, rfl, fun turns => ?_⟩
  refine (Keeps.run (keeps_start ?_) t turns).between
  intro trip mem
  exact Timetable.between_of_mem_serve mem

/-! ## A quayside

A depot has an id that is written like the coordinate of the shore, and of a garden and a cellar
only the names are known. -/

def shore : Location := .atPoint ⟨52500000, 13400000⟩

def depot : Location := .stationOf "52.500000,13.400000" "Depot"

def quay : Location := .stationOf "quay" "Quay"

def garden : Location := .ofName .poi "Garden"

def cellar : Location := .ofName .address "Cellar"

/-- A walk that starts in a minute of the day and takes five minutes. -/
def stroll (minute : Int64) (start finish : Location) : StoredTrip where
  id := none
  legs := [.own ⟨.walk, start, ⟨minute * 60000, .network⟩, finish,
    ⟨minute * 60000 + 300000, .network⟩, 400, none⟩]
  changes := none
  fares := []
  capacity := none

def quayside : Timetable where
  network := ⟨"QUAYSIDE", by decide⟩
  locations := [quay, garden]
  departures := []
  pages := [⟨[stroll 0 shore quay, stroll 1 depot quay, stroll 2 quay cellar]⟩]
  initialPage := 0
  details := []

/-- From the shore to the quay, by way of the quay. -/
def ashore : Query where
  origin := shore
  via := some quay
  destination := .ofId .any "quay"
  time := ⟨0, .system⟩
  bound := .departAfter

/-- From the quay to the garden by its name in small letters. -/
def gardenward : Query where
  origin := quay
  via := none
  destination := .ofName .any "garden"
  time := ⟨0, .system⟩
  bound := .departAfter

/-- From the shore to the quay, all trips run between the two places, after two turns as well. -/
theorem trips_between_ashore :
    (quayside.trips ⟨0, 0⟩ ashore .default).status = .ok ∧
      ∃ origin via destination c,
        (quayside.trips ⟨0, 0⟩ ashore .default).origin = some origin ∧
        (quayside.trips ⟨0, 0⟩ ashore .default).continuation = some c ∧
        ∀ trip ∈ ((start quayside ⟨0, 0⟩ (quayside.trips ⟨0, 0⟩ ashore .default) c).run quayside
          [⟨⟨1, 0⟩, true⟩, ⟨⟨2, 0⟩, false⟩]).trips, trip.Between origin via destination := by
  have ok : (quayside.trips ⟨0, 0⟩ ashore .default).status = .ok := by rfl
  obtain ⟨origin, via, destination, c, -, known, -, -, given, between⟩ :=
    trips_between quayside ⟨0, 0⟩ ashore .default ok
  exact ⟨ok, origin, via, destination, c, known, given, between _⟩

/-- To run between places that meet the ends of a query is not to run between these ends. A trip
from the depot answers a query from the shore, and one that ends at the cellar answers a query to
the garden. -/
theorem exists_trip_elsewhere :
    ((quayside.trips ⟨0, 0⟩ ashore .default).status = .ok ∧
        (quayside.trips ⟨0, 0⟩ ashore .default).origin = some shore ∧
        ∃ trip ∈ (quayside.trips ⟨0, 0⟩ ashore .default).trips,
          ¬ trip.firstLeg.start.SamePlace shore) ∧
      (quayside.trips ⟨0, 0⟩ gardenward .default).status = .ok ∧
        (quayside.trips ⟨0, 0⟩ gardenward .default).destination = some garden ∧
        ∃ trip ∈ (quayside.trips ⟨0, 0⟩ gardenward .default).trips,
          ¬ trip.lastLeg.finish.SamePlace garden := by
  have apart : ¬ depot.SamePlace shore := by
    rintro (⟨-, right⟩ | ⟨anonymous, -, -, -⟩)
    · exact nomatch right
    · exact absurd anonymous (by decide)
  have unknown : ¬ cellar.SamePlace garden := by
    rintro (⟨-, right⟩ | ⟨-, -, -, right⟩)
    · exact nomatch right
    · exact nomatch right
  have starts : depot ∈ (quayside.trips ⟨0, 0⟩ ashore .default).trips.map (·.firstLeg.start) :=
    List.mem_of_getElem? (i := 1) rfl
  have ends : cellar ∈
      (quayside.trips ⟨0, 0⟩ gardenward .default).trips.map (·.lastLeg.finish) :=
    List.mem_of_getElem? (i := 0) rfl
  obtain ⟨trip, mem, start⟩ := List.mem_map.1 starts
  obtain ⟨trip', mem', finish⟩ := List.mem_map.1 ends
  rw [← start] at apart
  rw [← finish] at unknown
  exact ⟨⟨by rfl, by rfl, trip, mem, apart⟩, by rfl, by rfl, trip', mem', unknown⟩

end Paging

end Itinerary
