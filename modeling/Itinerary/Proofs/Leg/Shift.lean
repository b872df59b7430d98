import Itinerary.Proofs.Time.Reach
import Itinerary.Proofs.Trip.Repair

/-!
# Legs that are moved

A leg that is moved to another departure goes its way as before. Its arrival is moved by as much as
its departure, and that is done in two steps, each of which clamps: how far the departure is moved
is made a duration, and the sum of it and the arrival is made an instant. So the leg takes as long
as before where it is `Movable`, that is where neither step clamps. The steps never make up for one
another (`OwnLeg.span_departingAt_eq_iff`), so the condition is exact (`OwnLeg.departingAt_keeps`).

Where only the second step clamps, no arrival would do: the leg has no place on the clock where it
is moved to. The first step clamps where there is one (`OwnLeg.departingAt_remote`), and then a leg
that is moved forward ends too early, even before it starts.
-/

namespace Itinerary.OwnLeg

open Time (Moment Duration durationMax durationMax_pos clock_start clock_end)

variable {l : OwnLeg} {departure : Moment}

/-- From the departure to the arrival in milliseconds, however far that is. -/
def span (l : OwnLeg) : Int := l.arrival.ms - l.departure.ms

/-- A leg that can be moved to a departure without clamping. -/
structure Movable (l : OwnLeg) (departure : Moment) : Prop where
  /-- How far it is moved is a duration. -/
  way : -durationMax ≤ departure.ms - l.departure.ms ∧
    departure.ms - l.departure.ms ≤ durationMax
  /-- Where it ends then is an instant. -/
  reach : Int64.minValue.toInt ≤ departure.ms + l.span ∧
    departure.ms + l.span ≤ Int64.maxValue.toInt

/-- A leg that is moved goes in the same way between the same places. -/
theorem sameWay_departingAt (l : OwnLeg) (departure : Moment) :
    l.SameWay (l.departingAt departure) :=
  ⟨rfl, rfl, rfl, rfl, rfl⟩

/-! ## The two steps -/

/-- What is left of the span by the two steps in which the arrival is moved. -/
theorem span_departingAt (l : OwnLeg) (departure : Moment) :
    (l.departingAt departure).span =
      max (-durationMax - 1) (min durationMax
        (l.arrival.ms +
          max (-durationMax) (min durationMax (departure.ms - l.departure.ms)))) -
        departure.ms := by
  rw [span, departingAt, Moment.ms_shift, Moment.ms_since]

/-- If the first step is exact, only the end of the clock is in the way. -/
theorem span_departingAt_of_way
    (way : -durationMax ≤ departure.ms - l.departure.ms ∧
      departure.ms - l.departure.ms ≤ durationMax) :
    (l.departingAt departure).span =
      max (-durationMax - 1) (min durationMax (departure.ms + l.span)) - departure.ms := by
  have exact : max (-durationMax) (min durationMax (departure.ms - l.departure.ms)) =
      departure.ms - l.departure.ms := by omega
  have sum : l.arrival.ms + (departure.ms - l.departure.ms) = departure.ms + l.span := by
    rw [span]
    omega
  rw [span_departingAt, exact, sum]

/-- A leg that is moved too far forward becomes shorter, since its arrival is moved by less. -/
theorem span_departingAt_lt (ahead : durationMax < departure.ms - l.departure.ms) :
    (l.departingAt departure).span < l.span := by
  have arrival := l.arrival.ms_bounds
  have positive := durationMax_pos
  rw [span_departingAt, span]
  omega

/-- A leg that is moved too far back becomes longer. -/
theorem lt_span_departingAt (back : departure.ms - l.departure.ms < -durationMax) :
    l.span < (l.departingAt departure).span := by
  have arrival := l.arrival.ms_bounds
  have positive := durationMax_pos
  rw [span_departingAt, span]
  omega

/-! ## What moving keeps -/

/-- A leg that is moved is as long as before if neither step clamps, and only then. -/
theorem span_departingAt_eq_iff (l : OwnLeg) (departure : Moment) :
    (l.departingAt departure).span = l.span ↔ l.Movable departure := by
  have lowest := clock_start
  have highest := clock_end
  have positive := durationMax_pos
  constructor
  · intro same
    have back := mt lt_span_departingAt (Int.not_lt.2 (Int.le_of_eq same))
    have ahead := mt span_departingAt_lt (Int.not_lt.2 (Int.le_of_eq same.symm))
    have way : -durationMax ≤ departure.ms - l.departure.ms ∧
        departure.ms - l.departure.ms ≤ durationMax :=
      ⟨Int.not_lt.1 back, Int.not_lt.1 ahead⟩
    rw [span_departingAt_of_way way] at same
    exact ⟨way, by omega⟩
  · rintro ⟨way, reach⟩
    rw [span_departingAt_of_way way]
    omega

/-- A leg that ended no earlier than it started still does when it is moved, unless it is moved to
where the way from its old end is no duration. -/
theorem span_departingAt_nonneg_iff (forward : 0 ≤ l.span) :
    0 ≤ (l.departingAt departure).span ↔ departure.ms - l.arrival.ms ≤ durationMax := by
  have departed := l.departure.ms_bounds
  have departs := departure.ms_bounds
  have positive := durationMax_pos
  rw [span] at forward
  rw [span_departingAt]
  omega

/-- A leg that is moved departs when it is to depart and goes its way as before. It is as long as
before if it is movable, and only then. So it takes as long as before if it is movable, or if it was
too long for a duration and still is. A leg that ended no earlier than it started still does if it
is not moved farther from its old end than a duration reaches, as no movable leg is. -/
theorem departingAt_keeps (l : OwnLeg) (departure : Moment) :
    (l.departingAt departure).departure = departure ∧ l.SameWay (l.departingAt departure) ∧
      ((l.departingAt departure).span = l.span ↔ l.Movable departure) ∧
      ((l.departingAt departure).duration = l.duration ↔
        l.Movable departure ∨
          (durationMax ≤ (l.departingAt departure).span ∧ durationMax ≤ l.span) ∨
          ((l.departingAt departure).span ≤ -durationMax ∧ l.span ≤ -durationMax)) ∧
      (0 ≤ l.span →
        (0 ≤ (l.departingAt departure).span ↔ departure.ms - l.arrival.ms ≤ durationMax) ∧
        (l.Movable departure → 0 ≤ (l.departingAt departure).span)) := by
  have same := l.span_departingAt_eq_iff departure
  refine ⟨rfl, l.sameWay_departingAt departure, same, ?_, ?_⟩
  · rw [← same]
    exact Duration.clamp_eq_clamp_iff
  · intro forward
    refine ⟨span_departingAt_nonneg_iff forward, fun movable => ?_⟩
    rw [same.2 movable]
    exact forward

/-! ## A walk in the remote past

It takes ten minutes, and it is moved to the remote future. -/

def pier : Location := .stationOf "pier" "Pier"

def lighthouse : Location :=
  { Location.ofName .poi "Lighthouse" with id := some "lighthouse" }

def remote : OwnLeg where
  movement := .walk
  start := pier
  departure := ⟨-5000000000000000000, .network⟩
  finish := lighthouse
  arrival := ⟨-4999999999999400000, .network⟩
  distance := 700
  path := none

def remoteFuture : Moment := ⟨5000000000000000000, .network⟩

/-- A leg may be lost in the move although it has a place on the clock. It does not take as long as
before, and it ends before it starts. -/
theorem departingAt_remote :
    0 ≤ remote.span ∧
      (Int64.minValue.toInt ≤ remoteFuture.ms + remote.span ∧
        remoteFuture.ms + remote.span ≤ Int64.maxValue.toInt) ∧
      (remote.departingAt remoteFuture).duration ≠ remote.duration ∧
      (remote.departingAt remoteFuture).arrival.ms <
        (remote.departingAt remoteFuture).departure.ms := by
  decide

end Itinerary.OwnLeg
