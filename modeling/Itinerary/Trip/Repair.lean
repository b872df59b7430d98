import Itinerary.Trip.Basic

/-!
# Repairing overlaps

Backends plan rides well and what lies between them carelessly. A traveller's own leg that starts
before the leg in front of it has ended is moved to start at that end; rides stay where they are,
and so does the first leg. One pass from front to back does it, since a moved leg is what the next
one has to wait for.
-/

namespace Itinerary

open Time (Moment)

namespace Leg

/-- The leg moved behind a moment, if it is the traveller's own and starts before it. -/
def movedBehind (previous : Moment) : Leg → Option Leg
  | own l => if l.departure.before previous then some (own (l.departingAt previous)) else none
  | ride _ => none

/-- Legs repaired behind one that ends at a moment, and how many were moved. -/
def repairedBehind : Moment → List Leg → List Leg × Nat
  | _, [] => ([], 0)
  | previous, leg :: rest =>
    match leg.movedBehind previous with
    | some moved =>
      let (legs, count) := repairedBehind moved.arrival rest
      (moved :: legs, count + 1)
    | none =>
      let (legs, count) := repairedBehind leg.arrival rest
      (leg :: legs, count)

/-- Legs repaired, and how many were moved. -/
def repaired : List Leg → List Leg × Nat
  | [] => ([], 0)
  | leg :: rest =>
    let (legs, count) := repairedBehind leg.arrival rest
    (leg :: legs, count)

/-- Repair leaves a trip as many legs as it has, so at least one. -/
theorem repaired_ne_nil {legs : List Leg} (h : legs ≠ []) : (repaired legs).1 ≠ [] := by
  cases legs with
  | nil => exact absurd rfl h
  | cons leg rest => exact List.cons_ne_nil _ _

end Leg

namespace Trip

/-- The trip repaired, and how many of its legs were moved. -/
def repaired (t : Trip) : Trip × Nat :=
  ({ t with
     legs := (Leg.repaired t.legs).1
     nonempty := Leg.repaired_ne_nil t.nonempty }, (Leg.repaired t.legs).2)

end Trip

end Itinerary
