import Itinerary.Trip.Repair
import Mathlib.Data.List.Basic

/-!
# The schedule that a repair makes

A repair goes from front to back, and what it makes of a leg depends on the leg in front of it as
the repair left it (`Leg.Placed`). So the legs of a repaired list are placed one behind the other
(`Leg.Scheduled`): rides stay where they are, and a traveller's own leg starts when it was to start
or when the leg in front of it has ended, whichever comes later (`Leg.repaired_schedule`).

The end of a moved leg clamps at the end of the 64-bit range. Nothing here depends on it, for the
next leg is placed behind that end, clamped or not.
-/

namespace Itinerary

open Time (Moment)

/-- Two legs of a traveller's own that differ in their times only. -/
structure OwnLeg.SameWay (a b : OwnLeg) : Prop where
  movement : b.movement = a.movement
  start : b.start = a.start
  finish : b.finish = a.finish
  distance : b.distance = a.distance
  path : b.path = a.path

namespace Leg

variable {front l out : Leg} {legs outs : List Leg}

/-- What a repair makes of a leg behind one that ends at a moment. -/
inductive Placed (previous : Moment) : Leg → Leg → Prop where
  /-- Rides stay where they are. -/
  | rides (r : Ride) : Placed previous (.ride r) (.ride r)
  /-- So does a leg that starts when the one in front of it has ended. -/
  | inTime {l : OwnLeg} (reached : previous.ms ≤ l.departure.ms) : Placed previous (.own l) (.own l)
  | moved {l : OwnLeg} (missed : l.departure.ms < previous.ms) :
      Placed previous (.own l) (.own (l.departingAt previous))

/-- Legs that are placed one behind the other, the first of them behind the front. -/
inductive Scheduled : Leg → List Leg → List Leg → Prop where
  | nil (front : Leg) : Scheduled front [] []
  | cons {front l out : Leg} {legs outs : List Leg} (placed : Placed front.arrival l out)
      (rest : Scheduled out legs outs) : Scheduled front (l :: legs) (out :: outs)

/-- Whether a leg starts at another instant than before. -/
def isShifted (pair : Leg × Leg) : Bool := pair.1.departure.ms ≠ pair.2.departure.ms

theorem isShifted_self (l : Leg) : isShifted (l, l) = false :=
  decide_eq_false fun differ => differ rfl

/-! ## One leg -/

/-- An own leg that would start before the leg in front ends is moved to that instant. -/
theorem movedBehind_own_of_lt {previous : Moment} {l : OwnLeg}
    (missed : l.departure.ms < previous.ms) :
    (own l).movedBehind previous = some (own (l.departingAt previous)) :=
  if_pos (decide_eq_true missed)

/-- An own leg that starts when the leg in front ends, or later, is not moved. -/
theorem movedBehind_own_of_le {previous : Moment} {l : OwnLeg}
    (reached : previous.ms ≤ l.departure.ms) : (own l).movedBehind previous = none :=
  if_neg fun early => Int.not_lt.2 reached (of_decide_eq_true early)

/-- The step of a repair: a leg is moved and starts at another instant, or it is kept. -/
theorem placed_step (previous : Moment) (l : Leg) :
    (∃ out, l.movedBehind previous = some out ∧ Placed previous l out ∧
        isShifted (l, out) = true) ∨
      (l.movedBehind previous = none ∧ Placed previous l l ∧ isShifted (l, l) = false) := by
  cases l with
  | ride r => exact .inr ⟨rfl, .rides r, isShifted_self _⟩
  | own l =>
    by_cases missed : l.departure.ms < previous.ms
    · have shifted : isShifted (own l, own (l.departingAt previous)) = true :=
        decide_eq_true (Int.ne_of_lt missed)
      exact .inl ⟨_, movedBehind_own_of_lt missed, .moved missed, shifted⟩
    · have reached := Int.not_lt.1 missed
      exact .inr ⟨movedBehind_own_of_le reached, .inTime reached, isShifted_self _⟩

/-- A leg that is where a repair put it is not moved again. -/
theorem Placed.movedBehind_eq_none {previous : Moment} (placed : Placed previous l out) :
    out.movedBehind previous = none := by
  cases placed with
  | rides r => rfl
  | inTime reached => exact movedBehind_own_of_le reached
  | moved missed => exact movedBehind_own_of_le (Int.le_refl _)

/-- A ride is never moved. -/
theorem Placed.ride_eq {previous : Moment} {r : Ride} (placed : Placed previous (ride r) out) :
    out = ride r := by
  cases placed with
  | rides r => rfl

/-- A traveller's own leg starts at the later one of two instants and is otherwise as it was; where
it need not wait, its times are as they were as well. -/
theorem Placed.exists_own {previous : Moment} {l : OwnLeg} (placed : Placed previous (own l) out) :
    ∃ m, out = own m ∧ m.departure.ms = max l.departure.ms previous.ms ∧ l.SameWay m ∧
      (previous.ms ≤ l.departure.ms → m = l) := by
  cases placed with
  | inTime reached =>
    exact ⟨l, rfl, (Int.max_eq_left reached).symm, ⟨rfl, rfl, rfl, rfl, rfl⟩, fun _ => rfl⟩
  | moved missed =>
    refine ⟨_, rfl, (Int.max_eq_right (Int.le_of_lt missed)).symm, ⟨rfl, rfl, rfl, rfl, rfl⟩, ?_⟩
    intro reached
    exact absurd missed (Int.not_lt.2 reached)

/-! ## The pass from front to back -/

/-- The pass puts each leg behind the one in front of it, where that was put. -/
theorem scheduled_repairedBehind (front : Leg) (legs : List Leg) :
    Scheduled front legs (repairedBehind front.arrival legs).1 := by
  induction legs generalizing front with
  | nil => exact .nil front
  | cons l legs ih =>
    obtain ⟨out, moved, placed, -⟩ | ⟨kept, placed, -⟩ := placed_step front.arrival l
    · simp only [repairedBehind, moved]
      exact .cons placed (ih out)
    · simp only [repairedBehind, kept]
      exact .cons placed (ih l)

/-- What the pass counts are the legs that start at another instant than before. -/
theorem count_repairedBehind (previous : Moment) (legs : List Leg) :
    (repairedBehind previous legs).2 =
      (legs.zip (repairedBehind previous legs).1).countP isShifted := by
  induction legs generalizing previous with
  | nil => rfl
  | cons l legs ih =>
    obtain ⟨out, moved, -, shifted⟩ | ⟨kept, -, unshifted⟩ := placed_step previous l
    · simp only [repairedBehind, moved, List.zip_cons_cons, List.countP_cons, shifted, if_true, ih]
    · simp only [repairedBehind, kept, List.zip_cons_cons, List.countP_cons, unshifted,
        Bool.false_eq_true, if_false, Nat.add_zero, ih]

namespace Scheduled

/-- A repair neither drops nor adds a leg. -/
theorem length_eq (scheduled : Scheduled front legs outs) : outs.length = legs.length := by
  induction scheduled with
  | nil front => rfl
  | cons placed rest ih => rw [List.length_cons, List.length_cons, ih]

/-- Legs that are scheduled are not moved again. -/
theorem repairedBehind_eq (scheduled : Scheduled front legs outs) :
    repairedBehind front.arrival outs = (outs, 0) := by
  induction scheduled with
  | nil front => rfl
  | cons placed rest ih => simp only [repairedBehind, placed.movedBehind_eq_none, ih]

/-- Every leg is placed behind the one in front of it. -/
theorem exists_placed (scheduled : Scheduled front legs outs) {i : Nat}
    (found : legs[i]? = some l) :
    ∃ previous out, (front :: outs)[i]? = some previous ∧ outs[i]? = some out ∧
      Placed previous.arrival l out := by
  induction scheduled generalizing i with
  | nil front => cases found
  | @cons front first out legs outs placed rest ih =>
    cases i with
    | zero =>
      cases found
      exact ⟨front, out, rfl, rfl, placed⟩
    | succ i => exact ih found

end Scheduled

/-! ## All legs -/

/-- There is nothing to repair in what was repaired. -/
theorem repaired_repaired (legs : List Leg) :
    repaired (repaired legs).1 = ((repaired legs).1, 0) := by
  cases legs with
  | nil => rfl
  | cons front legs =>
    simp only [repaired, (scheduled_repairedBehind front legs).repairedBehind_eq]

/-- A repair keeps the number of the legs, the first leg and all rides. Every other leg of a
traveller's own starts at the later one of two instants, that at which it started and that at which
the repaired leg in front of it ends; it goes its way as before, and if it started in time, nothing
about it changes. Counted are the legs that start at another instant than before. There is nothing
to repair in what was repaired. -/
theorem repaired_schedule (legs : List Leg) :
    ∃ outs count, repaired legs = (outs, count) ∧
      outs.length = legs.length ∧ outs[0]? = legs[0]? ∧
      (∀ (i : Nat) (r : Ride), legs[i]? = some (ride r) → outs[i]? = some (ride r)) ∧
      (∀ (i : Nat) (l : OwnLeg), legs[i + 1]? = some (own l) →
        ∃ previous m, outs[i]? = some previous ∧ outs[i + 1]? = some (own m) ∧
          m.departure.ms = max l.departure.ms previous.arrival.ms ∧ l.SameWay m ∧
          (previous.arrival.ms ≤ l.departure.ms → m = l)) ∧
      count = (legs.zip outs).countP isShifted ∧
      repaired outs = (outs, 0) := by
  cases legs with
  | nil =>
    refine ⟨[], 0, rfl, rfl, rfl, ?_, ?_, rfl, rfl⟩
    · intro i r found
      cases found
    · intro i l found
      cases found
  | cons front legs =>
    -- The first leg is kept, so a ride or an own leg further on is placed by the pass behind it.
    have scheduled := scheduled_repairedBehind front legs
    have count := count_repairedBehind front.arrival legs
    refine ⟨front :: (repairedBehind front.arrival legs).1, (repairedBehind front.arrival legs).2,
      rfl, ?_, rfl, ?_, ?_, ?_, ?_⟩
    · rw [List.length_cons, scheduled.length_eq, List.length_cons]
    · intro i r found
      cases i with
      | zero => exact found
      | succ i =>
        obtain ⟨previous, out, -, placedAt, placed⟩ := scheduled.exists_placed found
        rw [List.getElem?_cons_succ, placedAt, placed.ride_eq]
    · intro i l found
      obtain ⟨previous, out, before, placedAt, placed⟩ := scheduled.exists_placed found
      obtain ⟨m, rfl, departure, way, kept⟩ := placed.exists_own
      exact ⟨previous, m, before, placedAt, departure, way, kept⟩
    · rw [List.zip_cons_cons, List.countP_cons, isShifted_self, count]
      rfl
    · simp only [repaired, scheduled.repairedBehind_eq]

end Leg

end Itinerary
