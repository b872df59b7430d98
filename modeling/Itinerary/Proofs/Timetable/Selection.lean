import Itinerary.Proofs.Leg.StopOrder
import Itinerary.Proofs.Order.Listing
import Itinerary.Proofs.Timetable.Decision
import Itinerary.Proofs.Trip.Change
import Itinerary.Proofs.Trip.Repaired

/-!
# Which stored trips of a page serve a query

A page builds all its trips, repairs them and keeps those that run between the ends and that the
options allow. Whether a trip is kept shows before it is built: a repair touches neither the ends of
legs nor rides, and nothing else is looked at. So the trips of an answer are those that are built
from the stored trips that suit the query as they are stored (`StoredTrip.Suits`), each from its
own, in the order of the page (`Timetable.serve_suited`).

That is why a timetable may ask its stored legs alone whether any page holds a trip at all: it does
if and only if some page has an answer for a traveller who says nothing.
-/

namespace Itinerary

open Time (Stamp)

/-! ## Legs before and after a repair -/

/-- Where a course starts and where it ends. -/
def Course.ends : Course → Location × Location
  | own _ start finish _ => (start, finish)
  | ride r => (r.departureStop.location, r.arrivalStop.location)

namespace Leg

variable {as bs : List Leg} {origin destination : Location} {via : Option Location}

/-- Where a leg starts and where it ends. -/
def ends (l : Leg) : Location × Location := (l.start, l.finish)

/-- The ends of a leg are part of its course. -/
theorem ends_course (l : Leg) : l.course.ends = l.ends := by
  cases l with
  | own l => rfl
  | ride r => rfl

/-- Repair moves own legs in time only, so all legs keep their ends. -/
theorem map_ends_repaired (legs : List Leg) : (repaired legs).1.map ends = legs.map ends := by
  have composed : Course.ends ∘ course = ends := funext ends_course
  rw [← composed, ← List.map_map, map_course_repaired, List.map_map]

/-- Where legs run shows from their ends. -/
theorem Connects.congr (same : as.map ends = bs.map ends)
    (connects : Connects as origin via destination) : Connects bs origin via destination where
  first := by
    obtain ⟨l, head, start⟩ := connects.first
    have found : (bs.map ends).head? = some l.ends := by
      rw [← same, List.head?_map, head, Option.map_some]
    rw [List.head?_map] at found
    obtain ⟨l', head', alike⟩ := Option.map_eq_some_iff.1 found
    exact ⟨l', head', (congrArg (·.1.identity) alike).trans start⟩
  last := by
    obtain ⟨l, final, finish⟩ := connects.last
    have found : (bs.map ends).getLast? = some l.ends := by
      rw [← same, List.getLast?_map, final, Option.map_some]
    rw [List.getLast?_map] at found
    obtain ⟨l', final', alike⟩ := Option.map_eq_some_iff.1 found
    exact ⟨l', final', (congrArg (·.2.identity) alike).trans finish⟩
  via := by
    intro v given
    obtain ⟨l, mem, meets⟩ := connects.via v given
    have mem : l.ends ∈ bs.map ends := same ▸ List.mem_map_of_mem mem
    obtain ⟨l', mem', alike⟩ := List.mem_map.1 mem
    have start : l'.start = l.start := congrArg Prod.fst alike
    have finish : l'.finish = l.finish := congrArg Prod.snd alike
    exact ⟨l', mem', by rwa [start, finish]⟩

/-- Whether legs connect two places does not depend on repair. -/
theorem connects_repaired_iff (legs : List Leg) :
    Connects (repaired legs).1 origin via destination ↔ Connects legs origin via destination :=
  ⟨.congr (map_ends_repaired legs), .congr (map_ends_repaired legs).symm⟩

theorem Connects.ne_nil (connects : Connects as origin via destination) : as ≠ [] := by
  rintro rfl
  obtain ⟨l, head, -⟩ := connects.first
  cases head

end Leg

/-- Options allow a trip if they allow the product of each ride and as many changes as it has. -/
theorem Options.allow_iff {options : Options} {trip : Trip} :
    options.allow trip = true ↔
      (∀ r ∈ trip.rides, options.allows r.line.product = true) ∧
        ∀ n ∈ trip.changes, ∀ most ∈ options.maxChanges, n ≤ most.toNat := by
  rw [Options.allow, Bool.and_eq_true, List.all_eq_true]
  cases options.maxChanges with
  | none => simp only [Option.mem_def, reduceCtorEq, false_implies, implies_true]
  | some most =>
    cases trip.changes with
    | none => simp only [Option.mem_def, reduceCtorEq, false_implies, implies_true]
    | some n => simp only [Option.mem_def, Option.some.injEq, forall_eq', decide_eq_true_iff]

/-! ## Stored trips -/

namespace StoredTrip

variable {s : StoredTrip} {now : Stamp} {origin destination : Location} {via : Option Location}
  {options : Options} {trip : Trip}

/-- The rides among the stored legs. -/
def rides (s : StoredTrip) : List Ride := s.legs.filterMap Leg.ride?

/-- The number of changes: the stated one, else one less than there are rides. It is unknown where
there are none. -/
def changeCount (s : StoredTrip) : Option Nat :=
  match s.changes with
  | some n => some n.toNat
  | none => if s.rides.isEmpty then none else some (s.rides.length - 1)

/-- A stored trip that serves a query as it is stored: it has legs, they run between the ends, the
lines are of allowed products, and there are not too many changes where their number is known. -/
structure Suits (s : StoredTrip) (origin : Location) (via : Option Location)
    (destination : Location) (options : Options) : Prop where
  legs : s.legs ≠ []
  connects : Leg.Connects s.legs origin via destination
  products : ∀ r ∈ s.rides, options.allows r.line.product = true
  changes : ∀ n ∈ s.changeCount, ∀ most ∈ options.maxChanges, n ≤ most.toNat

instance (s : StoredTrip) (origin : Location) (via : Option Location) (destination : Location)
    (options : Options) : Decidable (s.Suits origin via destination options) :=
  -- Options are looked at as such: going through all words for a limit would not come to an end.
  letI : Decidable (∀ n ∈ s.changeCount, ∀ most ∈ options.maxChanges, n ≤ most.toNat) :=
    @Option.decidableForallMem _ _ (fun _ => Option.decidableForallMem _) s.changeCount
  decidable_of_iff (s.legs ≠ [] ∧ Leg.connect s.legs origin via destination = true ∧
      (∀ r ∈ s.rides, options.allows r.line.product = true) ∧
      ∀ n ∈ s.changeCount, ∀ most ∈ options.maxChanges, n ≤ most.toNat)
    ⟨fun ⟨legs, connects, products, changes⟩ =>
      ⟨legs, Leg.connect_iff.1 connects, products, changes⟩,
    fun h => ⟨h.legs, Leg.connect_iff.2 h.connects, h.products, h.changes⟩⟩

/-- The trip that a stored one becomes between two places. Its legs are the stored ones after a
repair, and nothing is known of it but what is stored. -/
structure Becomes (s : StoredTrip) (now : Stamp) (origin destination : Location) (trip : Trip) :
    Prop where
  explicitId : trip.explicitId = s.id
  origin : trip.origin = origin
  destination : trip.destination = destination
  legs : trip.legs = (Leg.repaired s.legs).1
  explicitChanges : trip.explicitChanges = s.changes
  fares : trip.fares = s.fares
  capacity : trip.capacity = s.capacity
  created : trip.created = now
  updated : trip.updated = now
  detailsLoaded : trip.detailsLoaded = false
  transfers : trip.transfers = []

/-- A stored trip without legs is never built; any other one is, and becomes a trip. -/
theorem build_cases (s : StoredTrip) (now : Stamp) (origin destination : Location) :
    (s.legs = [] ∧ s.build now origin destination = none) ∨
      (s.legs ≠ [] ∧ ∃ trip, s.build now origin destination = some trip ∧
        s.Becomes now origin destination trip) := by
  unfold build
  cases given : s.legs with
  | nil => exact .inl ⟨rfl, rfl⟩
  | cons leg rest =>
    refine .inr ⟨List.cons_ne_nil _ _, _, rfl, ?_⟩
    exact ⟨rfl, rfl, rfl, congrArg (fun legs => (Leg.repaired legs).1) given.symm, rfl, rfl, rfl,
      rfl, rfl, rfl, rfl⟩

/-- What is built from a stored trip is what it becomes. -/
theorem becomes_of_build (built : s.build now origin destination = some trip) :
    s.Becomes now origin destination trip := by
  obtain ⟨-, unbuilt⟩ | ⟨-, trip', built', becomes⟩ := s.build_cases now origin destination
  · exact nomatch built.symm.trans unbuilt
  · obtain rfl := Option.some.inj (built.symm.trans built')
    exact becomes

namespace Becomes

theorem rides (becomes : s.Becomes now origin destination trip) : trip.rides = s.rides := by
  rw [Trip.rides, becomes.legs, Leg.filterMap_ride?_repaired, StoredTrip.rides]

/-- Changes are counted as they were stored, or else between the rides. -/
theorem changes (becomes : s.Becomes now origin destination trip) :
    trip.changes = s.changeCount := by
  rw [Trip.changes, becomes.explicitChanges, becomes.rides]
  rfl

/-- A trip is kept if and only if the stored one suits the query. -/
theorem kept_iff (becomes : s.Becomes now origin destination trip) (legs : s.legs ≠ [])
    (via : Option Location) (options : Options) :
    (Leg.connect trip.legs origin via destination && options.allow trip) = true ↔
      s.Suits origin via destination options := by
  rw [Bool.and_eq_true, Leg.connect_iff, Options.allow_iff, becomes.legs,
    Leg.connects_repaired_iff, becomes.rides, becomes.changes]
  constructor
  · rintro ⟨connects, products, changes⟩
    exact ⟨legs, connects, products, changes⟩
  · rintro ⟨-, connects, products, changes⟩
    exact ⟨connects, products, changes⟩

/-- A trip that was built is repaired already, and nothing is left to count. -/
theorem repaired_eq (becomes : s.Becomes now origin destination trip) :
    trip.repaired = (trip, 0) := by
  have again : Leg.repaired trip.legs = (trip.legs, 0) := by
    rw [becomes.legs, Leg.repaired_repaired]
  cases trip
  simp only [Trip.repaired, again]

end Becomes

/-- A traveller who says nothing is served by all stored trips between the ends. -/
theorem suits_default_iff :
    s.Suits origin via destination .default ↔ Leg.Connects s.legs origin via destination := by
  refine ⟨Suits.connects, fun connects => ⟨connects.ne_nil, connects, fun _ _ => rfl, ?_⟩⟩
  intro n _ most stated
  cases stated

end StoredTrip

/-! ## Pages -/

namespace Timetable

variable (now : Stamp) (page : Page) (origin : Location) (via : Option Location)
  (destination : Location) (options : Options)

/-- What a page serves, one by one: the stored trips that suit the query, each as what it becomes.
-/
theorem forall₂_serve :
    List.Forall₂ (fun s trip => s.Becomes now origin destination trip)
      (page.trips.filter fun s => s.Suits origin via destination options)
      (serve now page origin via destination options) := by
  rw [serve, List.filter_filterMap]
  apply forall₂_filter_filterMap
  intro s
  obtain ⟨legless, unbuilt⟩ | ⟨legs, trip, built, becomes⟩ := s.build_cases now origin destination
  · refine .inr ⟨decide_eq_false fun suits => suits.legs legless, ?_⟩
    rw [unbuilt, Option.filter_none]
  · have kept := becomes.kept_iff legs via options
    rw [built, Option.filter_some]
    by_cases suits : s.Suits origin via destination options
    · exact .inl ⟨decide_eq_true suits, trip, if_pos (kept.2 suits), becomes⟩
    · exact .inr ⟨decide_eq_false suits, if_neg (mt kept.1 suits)⟩

/-- A page serves something just if a stored trip on it suits the query. -/
theorem serve_ne_nil_iff :
    serve now page origin via destination options ≠ [] ↔
      ∃ s ∈ page.trips, s.Suits origin via destination options := by
  have lengths := (forall₂_serve now page origin via destination options).length_eq
  rw [← List.length_pos_iff, ← lengths, List.length_pos_iff_exists_mem]
  simp only [List.mem_filter, decide_eq_true_iff]

/-- A page answers a query with the trips that its suitable stored trips become, in the order of the
page and one for each. These are repaired, so that another repair moves nothing. And a timetable
holds a trip between two places if and only if some page has an answer for a traveller who says
nothing. -/
theorem serve_suited :
    List.Forall₂ (fun s trip => s.Becomes now origin destination trip)
        (page.trips.filter fun s => s.Suits origin via destination options)
        (serve now page origin via destination options) ∧
      (∀ trip ∈ serve now page origin via destination options, trip.repaired = (trip, 0)) ∧
      ∀ t : Timetable, t.hasTrip origin via destination = true ↔
        ∃ page ∈ t.pages, serve now page origin via destination .default ≠ [] := by
  have served := forall₂_serve now page origin via destination options
  refine ⟨served, ?_, fun t => ?_⟩
  · intro trip mem
    obtain ⟨s, -, built⟩ := List.mem_filterMap.1 (List.mem_filter.1 mem).1
    exact (StoredTrip.becomes_of_build built).repaired_eq
  · rw [hasTrip_iff, Connected]
    simp only [serve_ne_nil_iff, StoredTrip.suits_default_iff]

end Timetable

/-! ## To the hut

A walk from the funicular to a hut starts before the funicular is up. -/

namespace Page

open Ride
open Location (stationOf)

def ascent : StoredTrip where
  id := none
  legs := [.ride funicular,
    .own ⟨.walk, stationOf "summit" "Summit", ⟨3000000, .network⟩, stationOf "hut" "Hut",
      ⟨3900000, .network⟩, 900, none⟩]
  changes := none
  fares := []
  capacity := none

/-- A trip without legs, the ascent, and the ascent with two changes. -/
def upward : Page := ⟨[{ ascent with legs := [] }, ascent, { ascent with changes := some 2 }]⟩

/-- Of the trips up the mountain, the one with legs and without two changes is served, and its walk
is moved behind the ride. -/
theorem serve_suited_upward :
    ∃ trip, Timetable.serve ⟨0, 0⟩ upward (stationOf "valley" "") none (stationOf "hut" "")
          { Options.default with maxChanges := some 1 } = [trip] ∧
      ascent.Becomes ⟨0, 0⟩ (stationOf "valley" "") (stationOf "hut" "") trip ∧
      (trip.legs.map fun l => l.departure.ms) = [0, 3600000] ∧ trip.repaired = (trip, 0) := by
  obtain ⟨served, settled, -⟩ := Timetable.serve_suited ⟨0, 0⟩ upward (stationOf "valley" "") none
    (stationOf "hut" "") { Options.default with maxChanges := some 1 }
  have suited : (upward.trips.filter fun s => s.Suits (stationOf "valley" "") none
      (stationOf "hut" "") { Options.default with maxChanges := some 1 }) = [ascent] := by
    rfl
  rw [suited] at served
  obtain ⟨trip, rest, becomes, none, list⟩ := List.forall₂_cons_left_iff.1 served
  obtain rfl := List.forall₂_nil_left_iff.1 none
  have mem := list ▸ List.mem_singleton_self trip
  refine ⟨trip, list, becomes, ?_, settled trip mem⟩
  rw [becomes.legs]
  rfl

end Page

end Itinerary
