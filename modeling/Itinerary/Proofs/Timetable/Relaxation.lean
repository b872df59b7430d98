import Itinerary.Proofs.Place.ReadBack
import Itinerary.Proofs.Timetable.Continuing
import Itinerary.Proofs.Timetable.Selection
import Itinerary.Proofs.Timetable.Window

/-!
# Asking for less

A traveller may put up with more: with more products, with more changes, with trips that do not come
by a third place. Whether there are trips at all is not asked of the options, so an answer under
lenient options differs from one under strict options in its trips alone, and there it keeps all of
them, in their order (`TripsAnswer.RelaxedTo`). The same holds for every later answer, since going on
in step leaves the two continuations in step: they differ in their options, and their cursors are
those of the same pages (`Paging.RelaxedTo.step`, `Paging.RelaxedTo.run`).

Dropping the third place may turn an answer without trips into one with trips, and the third place
of the answer is then no longer the same. So a relation between the two third places is carried
along: it is equality in the one case, and in the other that there is none on the lenient side.
-/

namespace Itinerary

open Time (Stamp)

/-! ## Options -/

namespace Options

variable {strict lenient : Options}

/-- Options under which nothing is allowed that is not allowed under others: wherever these set a
limit, so do the first ones, and theirs is no wider. Other wishes are of no account. -/
structure Within (strict lenient : Options) : Prop where
  products : ∀ wide ∈ lenient.products, ∃ narrow ∈ strict.products, ∀ p ∈ narrow, p ∈ wide
  changes : ∀ many ∈ lenient.maxChanges, ∃ few ∈ strict.maxChanges, few ≤ many

/-- A line is allowed if a filter has some product that the line may be of. -/
theorem allows_iff {options : Options} {product : Option Product} :
    options.allows product = true ↔
      ∀ filter ∈ options.products, ∃ p ∈ filter, ∀ q ∈ product, q = p := by
  unfold allows
  cases options.products with
  | none => exact iff_of_true rfl nofun
  | some filter =>
    simp only [Option.mem_def, Option.some.injEq, forall_eq']
    cases product with
    | none =>
      rw [Bool.not_eq_true', ProductSet.isEmpty_eq_false_iff]
      simp only [reduceCtorEq, false_implies, implies_true, and_true]
    | some q =>
      simp only [Option.some.injEq, forall_eq', exists_eq_right']
      rfl

namespace Within

variable (within : strict.Within lenient)
include within

/-- Who allows more allows what was allowed before, of each product. -/
theorem allows {product : Option Product} (allowed : strict.allows product = true) :
    lenient.allows product = true := by
  rw [allows_iff] at allowed ⊢
  intro wide given
  obtain ⟨narrow, given', sub⟩ := within.products wide given
  obtain ⟨p, mem, only⟩ := allowed narrow given'
  exact ⟨p, sub p mem, only⟩

/-- Who allows more allows the trips that were allowed before. -/
theorem allow {trip : Trip} (allowed : strict.allow trip = true) : lenient.allow trip = true := by
  rw [allow_iff] at allowed ⊢
  obtain ⟨products, changes⟩ := allowed
  refine ⟨fun r mem => within.allows (products r mem), fun n stated many given => ?_⟩
  obtain ⟨few, given', le⟩ := within.changes many given
  exact Nat.le_trans (changes n stated few given') (UInt32.le_iff_toNat_le.1 le)

end Within

end Options

/-! ## Trips -/

/-- Trips that stand in this order among others, if all of them are created at one time. -/
def Trip.Among (few many : List Trip) : Prop :=
  ∀ time, (few.map (createdAt · time)).Sublist (many.map (createdAt · time))

/-- Legs that come by a third place run between the ends without it. -/
theorem Leg.Connects.relax {legs : List Leg} {origin destination : Location}
    {via via' : Option Location} (connects : Connects legs origin via destination)
    (fewer : ∀ v ∈ via', v ∈ via) : Connects legs origin via' destination where
  first := connects.first
  last := connects.last
  via v given := connects.via v (fewer v given)

/-- Without the third place, the same trips connect the ends. -/
theorem Timetable.Connected.relax {t : Timetable} {origin destination : Location}
    {via via' : Option Location} (connected : t.Connected origin via destination)
    (fewer : ∀ v ∈ via', v ∈ via) : t.Connected origin via' destination := by
  obtain ⟨page, mem, s, stored, connects⟩ := connected
  exact ⟨page, mem, s, stored, connects.relax fewer⟩

namespace Options.Within

variable {strict lenient : Options} {origin destination : Location} {via via' : Option Location}

/-- Page by page, the trips that suit the strict options are among those that suit the lenient ones,
in the same order. -/
theorem among_serve (within : strict.Within lenient) (fewer : ∀ v ∈ via', v ∈ via) (page : Page)
    (now other : Stamp) :
    Trip.Among (Timetable.serve now page origin via destination strict)
      (Timetable.serve other page origin via' destination lenient) := by
  intro time
  rw [← Timetable.serve_createdAt, ← Timetable.serve_createdAt]
  refine List.monotone_filter_right _ fun trip kept => ?_
  rw [Bool.and_eq_true, Leg.connect_iff] at kept ⊢
  exact ⟨kept.1.relax fewer, within.allow kept.2⟩

end Options.Within

/-! ## Answers and continuations -/

section Relaxed

variable (R : Option Location → Option Location → Prop)

/-- A continuation of the same query, the third place apart, that is at the same pages and allows at
least as much. -/
structure Continuation.RelaxedTo (c d : Continuation) : Prop where
  query : d.query = { c.query with via := d.query.via }
  via : R c.query.via d.query.via
  options : c.options.Within d.options
  earlierCursor : d.earlierCursor = c.earlierCursor
  laterCursor : d.laterCursor = c.laterCursor

/-- An answer between the same ends, the third place apart, with the same outcome, that keeps all
trips and goes on in step. -/
structure TripsAnswer.RelaxedTo (a b : TripsAnswer) : Prop where
  status : b.status = a.status
  origin : b.origin = a.origin
  via : R a.via b.via
  destination : b.destination = a.destination
  continuation : Option.Rel (Continuation.RelaxedTo R) a.continuation b.continuation
  trips : Trip.Among a.trips b.trips

/-- Going on fails on both sides for the same reason, or on neither. -/
inductive Paging.Relaxed : Except Failure TripsAnswer → Except Failure TripsAnswer → Prop
  | ok {a b : TripsAnswer} (relaxed : a.RelaxedTo R b) : Relaxed (.ok a) (.ok b)
  | error (failure : Failure) : Relaxed (.error failure) (.error failure)

/-- Two queries under way in step: every answer to the one keeps the trips of the other's. -/
structure Paging.RelaxedTo (p q : Paging) : Prop where
  continuation : p.continuation.RelaxedTo R q.continuation
  answers : List.Forall₂ (Relaxed R) p.answers q.answers

end Relaxed

variable {R : Option Location → Option Location → Prop} {t : Timetable} {c d : Continuation}
  {now other : Stamp} {strict lenient : Options}

namespace Continuation.RelaxedTo

variable (h : c.RelaxedTo R d)
include h

theorem origin : d.query.origin = c.query.origin := by rw [h.query]

theorem destination : d.query.destination = c.query.destination := by rw [h.query]

theorem cursor (later : Bool) : d.cursor later = c.cursor later := by
  cases later with
  | true => exact h.laterCursor
  | false => exact h.earlierCursor

/-- Both continuations go on to the same page. -/
theorem advance (later : Bool) (next : Option String) :
    (c.advance later next).RelaxedTo R (d.advance later next) := by
  cases later with
  | true => exact { h with laterCursor := rfl }
  | false => exact { h with earlierCursor := rfl }

end Continuation.RelaxedTo

/-! ## Going on in step -/

namespace Paging

variable (drops : ∀ via via', R via via' → ∀ v ∈ via', v ∈ via)
include drops

/-- One turn, at any two times. -/
theorem relaxed_more (h : c.RelaxedTo R d) (now other : Stamp) (later : Bool) :
    Relaxed R (t.more now c later).1 (t.more other d later).1 ∧
      (t.more now c later).2.RelaxedTo R (t.more other d later).2 := by
  cases given : c.cursor later with
  | none =>
    rw [t.more_of_cursor_none given, t.more_of_cursor_none ((h.cursor later).trans given)]
    refine ⟨.ok ⟨rfl, congrArg some h.origin, h.via, congrArg some h.destination, .none, ?_⟩, h⟩
    exact fun time => List.Sublist.refl []
  | some cursor =>
    have given' := (h.cursor later).trans given
    cases place : t.pageAt cursor with
    | error failure =>
      rw [t.more_of_pageAt_error given place, t.more_of_pageAt_error given' place]
      exact ⟨.error failure, h⟩
    | ok numbered =>
      rw [t.more_of_pageAt given place, t.more_of_pageAt given' place, h.origin, h.destination]
      refine ⟨.ok ⟨rfl, rfl, h.via, rfl, .none, ?_⟩, h.advance later _⟩
      exact h.options.among_serve (drops _ _ h.via) _ now other

namespace RelaxedTo

variable {p q : Paging}

/-- A step of `Paging.RelaxedTo.run`: both sides turn to the same page, or fail for the same reason.
-/
theorem step (h : p.RelaxedTo R q) {turn turn' : Turn} (same : turn.later = turn'.later) :
    (p.step t turn).RelaxedTo R (q.step t turn') := by
  obtain ⟨answer, continuation⟩ :=
    relaxed_more (t := t) drops h.continuation turn.now turn'.now turn.later
  rw [same] at answer continuation
  refine ⟨?_, List.rel_append h.answers (.cons ?_ .nil)⟩
  · rw [Paging.step, same]
    exact continuation
  · rw [same]
    exact answer

/-- In step from the first answers on, both sides stay in step over any number of turns. -/
theorem run (h : p.RelaxedTo R q) {turns others : List Turn}
    (same : turns.map Turn.later = others.map Turn.later) :
    (p.run t turns).RelaxedTo R (q.run t others) := by
  induction turns generalizing p q others with
  | nil =>
    obtain rfl : others = [] := List.map_eq_nil_iff.1 same.symm
    exact h
  | cons turn turns ih =>
    cases others with
    | nil => contradiction
    | cons other others =>
      obtain ⟨direction, rest⟩ := List.cons.inj same
      exact ih (h.step drops direction) rest

end RelaxedTo

end Paging

/-! ## Two queries in step -/

namespace Timetable

/-- The answers to two queries are in step, and so are all answers to their continuations, turn by
turn, when both go on in the same directions. -/
structure Relaxes (t : Timetable) (R : Option Location → Option Location → Prop)
    (now other : Stamp) (query free : Query) (strict lenient : Options) : Prop where
  first : (t.trips now query strict).RelaxedTo R (t.trips other free lenient)
  later : ∀ c ∈ (t.trips now query strict).continuation,
    ∀ d ∈ (t.trips other free lenient).continuation,
      ∀ turns others : List Turn, turns.map Turn.later = others.map Turn.later →
        ((Paging.start t now (t.trips now query strict) c).run t turns).RelaxedTo R
          ((Paging.start t other (t.trips other free lenient) d).run t others)

variable {query free : Query} {origin destination : Location} {via via' : Option Location}

/-- With first answers in step, all answers that follow are. -/
theorem relaxes_of_first (drops : ∀ via via', R via via' → ∀ v ∈ via', v ∈ via)
    (first : (t.trips now query strict).RelaxedTo R (t.trips other free lenient)) :
    t.Relaxes R now other query free strict lenient where
  first := first
  later := by
    intro c given d given' turns others same
    have continuation := first.continuation
    rw [given, given'] at continuation
    cases continuation with
    | some relaxed => exact Paging.RelaxedTo.run drops ⟨relaxed, .cons (.ok first) .nil⟩ same

/-- Two answers with trips of one page, between the same ends. -/
theorem relaxedTo_found (within : strict.Within lenient) (thirds : R via via')
    (fewer : ∀ v ∈ via', v ∈ via) (page : Page) (earlier later : Option String) :
    TripsAnswer.RelaxedTo R
      (.found (t.header now) origin via destination
        (some ⟨{ query with origin, via, destination }, strict, earlier, later⟩)
        (serve now page origin via destination strict))
      (.found (t.header other) origin via' destination
        (some ⟨{ query with origin, via := via', destination }, lenient, earlier, later⟩)
        (serve other page origin via' destination lenient)) where
  status := rfl
  origin := rfl
  via := thirds
  destination := rfl
  continuation := .some ⟨rfl, thirds, within, rfl, rfl⟩
  trips := within.among_serve fewer page now other

/-- The rule that answers under strict options also answers under lenient ones. -/
theorem Decided.relax {answer : TripsAnswer} (within : strict.Within lenient)
    (decided : Decided t now query strict answer) (other : Stamp) :
    ∃ answer', Decided t other query lenient answer' ∧ answer.RelaxedTo Eq answer' := by
  have bare (status : TripsStatus) : (TripsAnswer.bare (t.header now) status).RelaxedTo Eq
      (.bare (t.header other) status) := ⟨rfl, rfl, rfl, rfl, .none, fun _ => .slnil⟩
  cases decided with
  | ambiguous some => exact ⟨_, .ambiguous some, bare _⟩
  | unknownOrigin clear unknown => exact ⟨_, .unknownOrigin clear unknown, bare _⟩
  | unknownVia clear origin given unknown =>
    exact ⟨_, .unknownVia clear origin given unknown, bare _⟩
  | unknownDestination clear origin via unknown =>
    exact ⟨_, .unknownDestination clear origin via unknown, bare _⟩
  | tooClose ends close => exact ⟨_, .tooClose ends close, bare _⟩
  | noTrips ends apart unconnected =>
    exact ⟨_, .noTrips ends apart unconnected, rfl, rfl, rfl, rfl, .none, fun _ => .slnil⟩
  | ok ends apart connected first =>
    exact ⟨_, .ok ends apart connected first,
      relaxedTo_found within rfl (fun _ mem => mem) _ _ _⟩

/-- The first answers are in step: both sides decide by the same rule of the table. -/
theorem relaxedTo_trips (within : strict.Within lenient) (query : Query) (now other : Stamp) :
    (t.trips now query strict).RelaxedTo Eq (t.trips other query lenient) := by
  obtain ⟨answer, decided, relaxed⟩ := (t.decided_trips now query strict).relax within other
  rwa [trips_of_decided decided]

/-- A query that is answered with trips is answered with trips without its third place. -/
theorem relaxedTo_trips_dropVia (within : strict.Within lenient) (query : Query)
    (now other : Stamp) (ok : (t.trips now query strict).status = .ok) :
    (t.trips now query strict).RelaxedTo (fun _ via => via = none)
      (t.trips other { query with via := none } lenient) := by
  have decided := t.decided_trips now query strict
  generalize t.trips now query strict = answer at decided ok ⊢
  cases decided with
  | @ok _ _ third _ ends apart connected first =>
    have free : t.Ends { query with via := none } _ none _ :=
      ⟨ends.origin, .none, ends.destination⟩
    have fewer : ∀ v ∈ (none : Option Location), v ∈ third := fun v mem =>
      absurd mem (Option.not_mem_none v)
    rw [trips_of_decided (.ok free apart (connected.relax fewer) first)]
    refine relaxedTo_found within ?_ fewer _ _ _
    rfl
  | ambiguous | unknownOrigin | unknownVia | unknownDestination | tooClose | noTrips =>
    contradiction

/-- Under options that allow at least as much, a query has the same outcome between the same places,
and it and all that follows on it are answered with the same pages and with at least the same trips.
Dropping the third place of a query that is answered with trips does no more. -/
theorem trips_relaxed (within : strict.Within lenient) (t : Timetable) (query : Query)
    (now other : Stamp) :
    t.Relaxes Eq now other query query strict lenient ∧
      ((t.trips now query strict).status = .ok →
        t.Relaxes (fun _ via => via = none) now other query { query with via := none } strict
          lenient) := by
  constructor
  · refine relaxes_of_first ?_ (relaxedTo_trips within query now other)
    rintro via _ rfl v mem
    exact mem
  · intro ok
    refine relaxes_of_first ?_ (relaxedTo_trips_dropVia within query now other ok)
    rintro via _ rfl v ⟨⟩

/-! ## A mountain

The ascent is on both pages, on the first one also with two changes. -/

open Ride Page
open Location (stationOf)

def mountain : Timetable where
  network := ⟨"MOUNTAIN", by decide⟩
  locations := [stationOf "valley" "Valley", stationOf "summit" "Summit", stationOf "hut" "Hut"]
  departures := []
  pages := [upward, ⟨[ascent]⟩]
  initialPage := 0
  details := []

/-- From the valley to the hut by way of the summit. -/
def hutward : Query where
  origin := stationOf "valley" ""
  via := some (stationOf "summit" "")
  destination := stationOf "hut" ""
  time := ⟨0, .system⟩
  bound := .departAfter

/-- By bus and without a change. -/
def easy : Options :=
  { Options.default with products := some (ProductSet.empty.insert .bus), maxChanges := some 0 }

/-- By bus or tram, with two changes at most and on quick feet. -/
def sporty : Options :=
  { easy with
    products := some ((ProductSet.empty.insert .tram).insert .bus)
    maxChanges := some 2
    walkSpeed := .fast }

/-- With two changes instead of none there are two trips to the hut where there was one, and turning
pages stays in step, be the summit asked for or not. -/
theorem trips_relaxed_mountain :
    easy.Within sporty ∧ (mountain.trips ⟨0, 0⟩ hutward easy).status = .ok ∧
      (mountain.trips ⟨0, 0⟩ hutward easy).trips.length = 1 ∧
      (mountain.trips ⟨1, 0⟩ hutward sporty).trips.length = 2 ∧
      mountain.Relaxes Eq ⟨0, 0⟩ ⟨1, 0⟩ hutward hutward easy sporty ∧
      mountain.Relaxes (fun _ via => via = none) ⟨0, 0⟩ ⟨1, 0⟩ hutward
        { hutward with via := none } easy sporty := by
  have within : easy.Within sporty := by
    refine ⟨?_, ?_⟩
    · rintro _ ⟨⟩
      exact ⟨_, rfl, fun p => by cases p <;> decide⟩
    · rintro _ ⟨⟩
      exact ⟨_, rfl, by decide⟩
  have ok : (mountain.trips ⟨0, 0⟩ hutward easy).status = .ok := by rfl
  obtain ⟨same, free⟩ := trips_relaxed within mountain hutward ⟨0, 0⟩ ⟨1, 0⟩
  exact ⟨within, ok, by rfl, by rfl, same, free ok⟩

end Timetable

end Itinerary
