import Itinerary.Proofs.Decimal.Digits
import Itinerary.Proofs.Timetable.Decision
import Itinerary.Trip.Identity

/-!
# What a page of a timetable answers

The steps of paging, each with one lemma that says all about it: what a new query that is answered
with trips comes down to (`Timetable.trips_eq_found`), what going on in an exhausted direction gives
(`Timetable.more_of_cursor_none`) and what it gives under a cursor (`Timetable.more_of_pageAt`,
`Timetable.pageAt_ofPage`).

A page is served trip by trip: each stored trip gives one trip for a query or none
(`StoredTrip.trip?`). When that happens shows in the time of creation alone, so whether a stored trip
matches does not depend on it (`StoredTrip.trip?_createdAt`).
-/

namespace Itinerary

open Time (Stamp)

/-! ## Stored trips -/

/-- The trip that a stored one is for a query: the one that is built between the ends, if it runs
there and the options allow it. -/
def StoredTrip.trip? (s : StoredTrip) (now : Stamp) (query : Query) (options : Options) :
    Option Trip :=
  (s.build now query.origin query.destination).filter fun trip =>
    Leg.connect trip.legs query.origin query.via query.destination && options.allow trip

/-- A stored trip is built at one time as at any other, but for the time at which the trip was
created. -/
theorem StoredTrip.build_createdAt (s : StoredTrip) (now other : Stamp)
    (origin destination : Location) :
    s.build other origin destination =
      (s.build now origin destination).map (Trip.createdAt · other) := by
  unfold StoredTrip.build
  cases s.legs with
  | nil => rfl
  | cons leg rest => rfl

/-- At another time a stored trip gives the same trip, created at that time. -/
theorem StoredTrip.trip?_createdAt (s : StoredTrip) (now other : Stamp) (query : Query)
    (options : Options) :
    s.trip? other query options = (s.trip? now query options).map (Trip.createdAt · other) := by
  unfold StoredTrip.trip?
  rw [s.build_createdAt now other]
  cases s.build now query.origin query.destination with
  | none => rfl
  | some trip =>
    have same : options.allow (trip.createdAt other) = options.allow trip := rfl
    simp only [Option.map_some, Option.filter_some, same]
    show (if Leg.connect trip.legs _ _ _ && _ then _ else _) = _
    split <;> rfl

namespace Timetable

/-- A page serves what can be built of its stored trips and matches, in their order. -/
theorem serve_eq_filterMap (now : Stamp) (page : Page) (query : Query) (options : Options) :
    serve now page query.origin query.via query.destination options =
      page.trips.filterMap fun s => s.trip? now query options := by
  rw [serve, List.filter_filterMap]
  rfl

/-- At another time a page has the same trips, created at that time. -/
theorem serve_createdAt (now other : Stamp) (page : Page) (origin : Location)
    (via : Option Location) (destination : Location) (options : Options) :
    serve other page origin via destination options =
      (serve now page origin via destination options).map (Trip.createdAt · other) := by
  have trips (time : Stamp) := serve_eq_filterMap time page
    ⟨origin, via, destination, ⟨0, .system⟩, .departAfter⟩ options
  rw [trips other, trips now, List.map_filterMap]
  exact List.filterMap_congr fun s _ => s.trip?_createdAt now other _ options

/-- The trips of the page with a number for a query. -/
def tripsOfPage (t : Timetable) (now : Stamp) (query : Query) (options : Options) (n : Nat) :
    List Trip :=
  match t.pages[n]? with
  | some page => serve now page query.origin query.via query.destination options
  | none => []

/-! ## A new query -/

/-- A query that is answered with trips has known ends, and its answer is that of the first page
between them, with the cursors of the pages next to it. -/
theorem trips_eq_found {t : Timetable} {now : Stamp} {query : Query} {options : Options}
    (ok : (t.trips now query options).status = .ok) :
    ∃ (origin : Location) (via : Option Location) (destination : Location) (page : Page),
      t.Ends query origin via destination ∧ t.pages[t.firstPage]? = some page ∧
      t.trips now query options =
        .found (t.header now) origin via destination
          (some ⟨{ query with origin, via, destination }, options,
            t.cursorFrom t.firstPage false, t.cursorFrom t.firstPage true⟩)
          (serve now page origin via destination options) := by
  have decided := t.decided_trips now query options
  generalize t.trips now query options = answer at decided ok ⊢
  cases decided with
  | ok ends apart connected first => exact ⟨_, _, _, _, ends, first, rfl⟩
  | ambiguous | unknownOrigin | unknownVia | unknownDestination | tooClose | noTrips =>
    contradiction

/-- Only an answer with trips has a continuation. -/
theorem status_of_continuation {t : Timetable} {now : Stamp} {query : Query} {options : Options}
    {c : Continuation} (given : (t.trips now query options).continuation = some c) :
    (t.trips now query options).status = .ok :=
  (t.decided_trips now query options).continuation_isSome_iff.1 (Option.isSome_of_eq_some given)

/-- The continuation of a query is of the same time. -/
theorem continuation_time {t : Timetable} {now : Stamp} {query : Query} {options : Options}
    {c : Continuation} (given : (t.trips now query options).continuation = some c) :
    c.query.time = query.time := by
  obtain ⟨origin, via, destination, page, -, -, found⟩ :=
    t.trips_eq_found (status_of_continuation given)
  rw [found] at given
  obtain rfl := Option.some.inj given
  rfl

/-! ## Going on -/

/-- The answer where there is nothing more in a direction. -/
def ranOut (t : Timetable) (now : Stamp) (c : Continuation) : TripsAnswer :=
  { TripsAnswer.bare (t.header now) .noTrips with
    origin := some c.query.origin
    via := c.query.via
    destination := some c.query.destination }

/-- Without a cursor, the answer tells that there are no more trips, and the continuation stays. -/
theorem more_of_cursor_none {t : Timetable} {c : Continuation} {later : Bool}
    (h : c.cursor later = none) (now : Stamp) :
    t.more now c later = (.ok (t.ranOut now c), c) := by
  rw [more, h]
  rfl

/-- With a cursor that names a page, its trips are served, and the cursor moves to the neighbour. -/
theorem more_of_pageAt {t : Timetable} {c : Continuation} {later : Bool} {cursor : String}
    {n : Nat} {page : Page} (h : c.cursor later = some cursor)
    (hpage : t.pageAt cursor = .ok (n, page)) (now : Stamp) :
    t.more now c later =
      (.ok (.found (t.header now) c.query.origin c.query.via c.query.destination none
        (serve now page c.query.origin c.query.via c.query.destination c.options)),
        c.advance later (t.cursorFrom n later)) := by
  rw [more, h]
  simp only [hpage]

/-- Going on never changes the query. -/
theorem query_more (t : Timetable) (now : Stamp) (c : Continuation) (later : Bool) :
    (t.more now c later).2.query = c.query := by
  unfold more
  split
  · rfl
  split
  · rfl
  · exact c.query_advance later _

end Timetable

/-! ## Cursors -/

theorem Cursor.ofPage_eq (n : Nat) : Cursor.ofPage n = "page:" ++ toString n := by
  rw [← String.toList_inj, String.toList_append, Cursor.ofPage, Nat.toString_eq_ofList_toDigits]
  simp only [String.toList_ofList]
  rfl

/-- A page is read back from its cursor, as far as page numbers fit into a machine word. -/
theorem Cursor.page?_ofPage {n : Nat} (h : n < UInt64.size) : page? (ofPage n) = some n := by
  rw [page?, ofPage, String.toList_ofList]
  exact Text.unsigned?_digits h

/-- A cursor that is read as the number of a page leads there. -/
theorem Timetable.pageAt_of_page? {t : Timetable} {cursor : String} {n : Nat} {page : Page}
    (named : Cursor.page? cursor = some n) (here : t.pages[n]? = some page) :
    t.pageAt cursor = .ok (n, page) := by
  rw [Timetable.pageAt, named]
  simp only [here]

/-- The cursor that is handed out for a page leads there. -/
theorem Timetable.pageAt_ofPage {t : Timetable} {n : Nat} {page : Page} (fits : n < UInt64.size)
    (h : t.pages[n]? = some page) : t.pageAt (Cursor.ofPage n) = .ok (n, page) :=
  pageAt_of_page? (Cursor.page?_ofPage fits) h

end Itinerary
