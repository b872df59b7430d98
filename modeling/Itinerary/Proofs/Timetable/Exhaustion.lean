import Itinerary.Proofs.Timetable.Window
import Itinerary.Proofs.Trip.Merge

/-!
# What an exhausted query has told

When both directions are exhausted, all pages were served, each once, whatever the order of the
turns was. So the trips that came are those of the matching stored trips of the whole timetable, one
for each, and the trips put together page by page have the unique ids of these, each once
(`Paging.exhausted_trips`).

A stored trip matches at one time if it does at another, and a unique id says nothing about the time
of creation, so one time stands for all of them on the side of the timetable.
-/

namespace Itinerary

open Time (Stamp)

namespace Timetable

/-- All stored trips, page by page. -/
def storedTrips (t : Timetable) : List StoredTrip := t.pages.flatMap Page.trips

/-- The stored trips of the page with a number. -/
def storedOn (t : Timetable) (n : Nat) : List StoredTrip := (t.pages[n]?.map Page.trips).getD []

/-- The trips of a page: of what is stored on it, whatever can be built and matches. -/
theorem tripsOfPage_eq_filterMap (t : Timetable) (now : Stamp) (query : Query)
    (options : Options) (n : Nat) :
    t.tripsOfPage now query options n =
      (t.storedOn n).filterMap fun s => s.trip? now query options := by
  rw [tripsOfPage, storedOn]
  cases t.pages[n]? with
  | none => rfl
  | some page => exact serve_eq_filterMap now page query options

/-- The stored trips of all pages, page after page. -/
theorem flatMap_range_storedOn (t : Timetable) :
    (List.range t.pages.length).flatMap t.storedOn = t.storedTrips := by
  unfold storedOn storedTrips
  induction t.pages with
  | nil => rfl
  | cons page pages ih =>
    rw [List.length_cons, List.range_succ_eq_map, List.flatMap_cons, List.flatMap_map,
      List.flatMap_cons, ← ih]
    rfl

end Timetable

namespace StoredTrip

/-- Whether a stored trip matches a query; the time is of no account. -/
def isMatch (query : Query) (options : Options) (now : Stamp) (s : StoredTrip) : Bool :=
  (s.trip? now query options).isSome

/-- Whether a stored trip matches does not depend on when it is asked for. -/
theorem isMatch_time (query : Query) (options : Options) (now other : Stamp) :
    isMatch query options other = isMatch query options now := by
  funext s
  rw [isMatch, s.trip?_createdAt now, Option.isSome_map]
  rfl

/-- The unique id of the trip that a stored one is for a query. -/
theorem map_uniqueId_trip?_time (s : StoredTrip) (query : Query) (options : Options)
    (now other : Stamp) :
    (s.trip? other query options).map Trip.uniqueId =
      (s.trip? now query options).map Trip.uniqueId := by
  rw [s.trip?_createdAt now, Option.map_map]
  rfl

end StoredTrip

namespace Paging

variable {t : Timetable} {c : Continuation} {p : Paging} {low high : Nat}

/-- The trips so far, put together page by page in the order in which they came. -/
def merged (p : Paging) : List Trip := p.batches.foldl Trip.mergePage []

/-- The stored trips that the pages served so far hold for a query, each with the time at which it
was served. -/
def matched (t : Timetable) (c : Continuation) (p : Paging) : List (Stamp × StoredTrip) :=
  p.served.flatMap fun s =>
    ((t.storedOn s.2).filter (StoredTrip.isMatch c.query c.options s.1)).map (s.1, ·)

/-- A window without cursors is the whole timetable. -/
theorem Window.served_perm_range (w : Window t c p low high)
    (earlier : p.continuation.cursor false = none) (later : p.continuation.cursor true = none) :
    (p.served.map Prod.snd).Perm (List.range t.pages.length) := by
  have bounds := w.low_le_high
  have inside := w.high_lt
  have first : low = 0 := by
    rw [w.cursor_earlier, Timetable.cursorFrom] at earlier
    by_contra positive
    simp [positive] at earlier
  have last : ¬ high + 1 < t.pages.length := by
    intro more
    rw [w.cursor_later, Timetable.cursorFrom] at later
    simp [more] at later
  have all : high + 1 - low = t.pages.length := by omega
  have served := w.served
  rw [all, first] at served
  exact served.trans (by rw [List.range_eq_range'])

/-- What matched on the pages that were served, in the order in which these were served. -/
theorem map_snd_matched (now : Stamp) :
    (matched t c p).map Prod.snd =
      ((p.served.map Prod.snd).flatMap t.storedOn).filter
        (StoredTrip.isMatch c.query c.options now) := by
  rw [matched, List.map_flatMap, List.flatMap_map, List.filter_flatMap]
  refine List.flatMap_congr fun s _ => ?_
  rw [List.map_map, StoredTrip.isMatch_time c.query c.options now s.1]
  exact List.map_id _

/-- Each stored trip that matched became a trip of an answer, and there are no others. -/
theorem map_trip?_matched :
    (matched t c p).map (fun s => s.2.trip? s.1 c.query c.options) =
      (p.served.flatMap fun s => t.tripsOfPage s.1 c.query c.options s.2).map some := by
  rw [matched, List.map_flatMap, List.map_flatMap]
  refine List.flatMap_congr fun s _ => ?_
  rw [t.tripsOfPage_eq_filterMap, List.map_map, List.map_filterMap_some_eq_filter_map_isSome,
    List.filter_map]
  rfl

/-- The unique ids of trips that come of stored ones at some times are those of the stored ones at
any time. -/
theorem mem_map_uniqueId_iff {query : Query} {options : Options} {trips : List Trip}
    {all : List StoredTrip} {stored : List (Stamp × StoredTrip)} (now : Stamp)
    (perm : (stored.map Prod.snd).Perm (all.filter (StoredTrip.isMatch query options now)))
    (come : stored.map (fun s => s.2.trip? s.1 query options) = trips.map some) {u : String} :
    u ∈ trips.map Trip.uniqueId ↔
      ∃ s ∈ all, ∃ trip, s.trip? now query options = some trip ∧ trip.uniqueId = u := by
  constructor
  · intro mem
    obtain ⟨trip, here, rfl⟩ := List.mem_map.1 mem
    have given : some trip ∈ stored.map (fun s => s.2.trip? s.1 query options) := by
      rw [come]
      exact List.mem_map.2 ⟨trip, here, rfl⟩
    obtain ⟨⟨time, s⟩, mem, same⟩ := List.mem_map.1 given
    have kept := perm.mem_iff.1 (List.mem_map.2 ⟨_, mem, rfl⟩)
    refine ⟨s, (List.mem_filter.1 kept).1, ?_⟩
    -- The trip came of the stored one at another time, and that does not touch the unique id.
    have ids := s.map_uniqueId_trip?_time query options time now
    rw [same, Option.map_some] at ids
    exact Option.map_eq_some_iff.1 ids
  · rintro ⟨s, mem, trip, same, rfl⟩
    have matches_ : StoredTrip.isMatch query options now s = true := by
      rw [StoredTrip.isMatch, same]
      rfl
    have kept := perm.mem_iff.2 (List.mem_filter.2 ⟨mem, matches_⟩)
    obtain ⟨⟨time, s⟩, served, rfl⟩ := List.mem_map.1 kept
    have given : s.trip? time query options ∈ trips.map some := by
      rw [← come]
      exact List.mem_map.2 ⟨(time, s), served, rfl⟩
    obtain ⟨trip', here, same'⟩ := List.mem_map.1 given
    have ids := s.map_uniqueId_trip?_time query options now time
    rw [same, ← same'] at ids
    exact List.mem_map.2 ⟨trip', here, Option.some.inj ids⟩

/-- A query whose two directions are exhausted, by whatever turns. The trips that came are, one for
one, those of the matching stored trips of all pages, each of which stands for one. Put together
page by page, they have no unique id twice, and the unique ids are those of the matching stored
trips. -/
theorem exhausted_trips (t : Timetable) (now : Stamp) (query : Query) (options : Options)
    (fits : t.pages.length ≤ UInt64.size) (ok : (t.trips now query options).status = .ok) :
    ∃ c, (t.trips now query options).continuation = some c ∧ c.options = options ∧
      (t.trips now query options).origin = some c.query.origin ∧
      (t.trips now query options).via = c.query.via ∧
      (t.trips now query options).destination = some c.query.destination ∧
      ∀ turns,
        let p := (start t now (t.trips now query options) c).run t turns
        p.continuation.earlierCursor = none → p.continuation.laterCursor = none →
          (∃ stored : List (Stamp × StoredTrip),
            (stored.map Prod.snd).Perm
              (t.storedTrips.filter (StoredTrip.isMatch c.query c.options now)) ∧
            stored.map (fun s => s.2.trip? s.1 c.query c.options) = p.trips.map some) ∧
          (p.merged.map Trip.uniqueId).Nodup ∧
          ∀ u, u ∈ p.merged.map Trip.uniqueId ↔
            ∃ s ∈ t.storedTrips, ∃ trip, s.trip? now c.query c.options = some trip ∧
              trip.uniqueId = u := by
  obtain ⟨c, given, kept, origin, via, destination, first⟩ := window_start ok
  refine ⟨c, given, kept, origin, via, destination, fun turns => ?_⟩
  intro p earlier later
  obtain ⟨low, high, w⟩ := first.run fits turns
  have trips :
      (matched t c p).map (fun s => s.2.trip? s.1 c.query c.options) = p.trips.map some := by
    rw [map_trip?_matched, w.trips]
  have stored : ((matched t c p).map Prod.snd).Perm
      (t.storedTrips.filter (StoredTrip.isMatch c.query c.options now)) := by
    rw [map_snd_matched now, ← t.flatMap_range_storedOn]
    exact ((w.served_perm_range earlier later).flatMap_right _).filter _
  refine ⟨⟨matched t c p, stored, trips⟩,
    Trip.nodup_map_uniqueId_foldl_mergePage _ List.nodup_nil, fun u => ?_⟩
  rw [merged, Trip.mem_map_uniqueId_foldl_mergePage, ← mem_map_uniqueId_iff now stored trips]
  exact or_iff_right List.not_mem_nil

/-- What the first answer for the shuttle says about going on. -/
def shuttleContinuation : Continuation where
  query := { shuttleQuery with origin := shuttleStart, destination := shuttleEnd }
  options := .default
  earlierCursor := some "page:0"
  laterCursor := some "page:2"

/-- The shuttle of seven is stored twice: it comes twice and is kept once. -/
theorem exhausted_trips_shuttle :
    shuttle.pages.length ≤ UInt64.size ∧
      (shuttle.trips ⟨0, 0⟩ shuttleQuery .default).status = .ok ∧
      let p := (start shuttle ⟨0, 0⟩ (shuttle.trips ⟨0, 0⟩ shuttleQuery .default)
        shuttleContinuation).run shuttle [⟨⟨1, 0⟩, false⟩, ⟨⟨2, 0⟩, false⟩, ⟨⟨3, 0⟩, true⟩]
      p.continuation.earlierCursor = none ∧ p.continuation.laterCursor = none ∧
        p.trips.length = 4 ∧ (p.merged.map Trip.uniqueId).Nodup := by
  have fits : shuttle.pages.length ≤ UInt64.size := by decide
  have ok : (shuttle.trips ⟨0, 0⟩ shuttleQuery .default).status = .ok := by rfl
  obtain ⟨c, given, -, -, -, -, runs⟩ :=
    exhausted_trips shuttle ⟨0, 0⟩ shuttleQuery .default fits ok
  obtain rfl : shuttleContinuation = c := Option.some.inj given
  exact ⟨fits, ok, rfl, rfl, rfl, (runs _ rfl rfl).2.1⟩

end Paging

end Itinerary
