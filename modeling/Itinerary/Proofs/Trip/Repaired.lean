import Itinerary.Proofs.Trip.Repair
import Itinerary.Proofs.Trip.Travelable

/-!
# What can still stop a repaired trip

A repair moves a traveller's own legs behind the legs in front of them and leaves rides where they
are. So of what may keep a trip from being taken (`Itinerary.Proofs.Trip.Travelable`) it sees to one
thing: behind a repair all of a traveller's own legs follow the legs in front of them
(`Leg.Scheduled.isChain_follows_iff`). What is left is a cancelled ride, a leg that ends before it
starts, and a ride that starts before the leg in front of it ends (`Trip.repaired_travelable_iff`).

A repair itself may make a leg end before it starts, where it is moved farther than a duration
reaches (`Itinerary.Proofs.Leg.Shift`). So legs are looked at as the repair leaves them.
-/

namespace Itinerary

/-! ## Legs behind a repair -/

namespace Leg

/-- A leg that follows the one in front of it if it is a ride. -/
def FollowsIfRide (front l : Leg) : Prop := l.isRide = true → front.Follows l

instance (front l : Leg) : Decidable (front.FollowsIfRide l) :=
  inferInstanceAs (Decidable (l.isRide = true → front.Follows l))

variable {front l out : Leg} {legs outs : List Leg}

/-- Where a repair put a leg, it follows the one in front of it if it is a traveller's own. -/
theorem Placed.follows_iff (placed : Placed front.arrival l out) :
    front.FollowsIfRide out ↔ front.Follows out := by
  cases placed with
  | rides r => exact ⟨fun follows => follows rfl, fun follows _ => follows⟩
  | inTime reached => exact ⟨fun _ => reached, fun follows _ => follows⟩
  | moved missed => exact ⟨fun _ => Int.le_refl _, fun follows _ => follows⟩

namespace Scheduled

/-- In a repaired list only rides may start too early. -/
theorem isChain_follows_iff (scheduled : Scheduled front legs outs) :
    (front :: outs).IsChain FollowsIfRide ↔ (front :: outs).IsChain Follows := by
  induction scheduled with
  | nil front => exact iff_of_true (.singleton front) (.singleton front)
  | cons placed rest ih =>
    rw [List.isChain_cons_cons, List.isChain_cons_cons, placed.follows_iff, ih]

/-- The rides of the legs come out of the pass as they went in, in the same order. -/
theorem filterMap_ride? (scheduled : Scheduled front legs outs) :
    outs.filterMap ride? = legs.filterMap ride? := by
  induction scheduled with
  | nil front => rfl
  | cons placed rest ih =>
    cases placed with
    | rides r => exact congrArg (r :: ·) ih
    | inTime reached => exact ih
    | moved missed => exact ih

end Scheduled

/-- A repair does not touch rides. -/
theorem filterMap_ride?_repaired (legs : List Leg) :
    (repaired legs).1.filterMap ride? = legs.filterMap ride? := by
  cases legs with
  | nil => rfl
  | cons front legs =>
    simp only [repaired, List.filterMap_cons,
      (scheduled_repairedBehind front legs).filterMap_ride?]

end Leg

/-! ## Repaired trips -/

namespace Trip

/-- The legs of a repaired trip are those of the trip, scheduled behind its first leg. -/
theorem exists_scheduled (t : Trip) :
    ∃ front legs outs, t.legs = front :: legs ∧ t.repaired.1.legs = front :: outs ∧
      Leg.Scheduled front legs outs := by
  obtain ⟨front, legs, made⟩ := List.exists_cons_of_ne_nil t.nonempty
  refine ⟨front, legs, _, made, ?_, Leg.scheduled_repairedBehind front legs⟩
  show (Leg.repaired t.legs).1 = _
  rw [made]
  rfl

theorem rides_repaired (t : Trip) : t.repaired.1.rides = t.rides :=
  Leg.filterMap_ride?_repaired t.legs

/-- Of a repaired trip it is enough to look at its rides and at each leg on its own. -/
theorem isTravelable_repaired_iff (t : Trip) :
    t.repaired.1.isTravelable = true ↔
      (∀ r ∈ t.rides, r.isCancelled = false) ∧
      (∀ l ∈ t.repaired.1.legs, l.departure.ms ≤ l.arrival.ms) ∧
      t.repaired.1.legs.IsChain Leg.FollowsIfRide := by
  obtain ⟨front, legs, outs, -, made, scheduled⟩ := t.exists_scheduled
  rw [isTravelable_eq_true_iff, inOrder_times_iff, rides_repaired, made,
    scheduled.isChain_follows_iff]

/-- Without rides there is nothing that does not wait. -/
theorem isChain_of_rides_eq_nil {t : Trip} (rideless : t.rides = []) :
    t.legs.IsChain Leg.FollowsIfRide := by
  apply List.Pairwise.isChain
  apply List.pairwise_of_forall_mem_list
  intro front _ l mem ride
  cases l with
  | own l => cases ride
  | ride r =>
    have among := mem_rides_iff.2 mem
    rw [rideless] at among
    cases among

/-- A repaired trip can be taken exactly if none of its rides is cancelled, no leg ends before it
starts, and no ride starts before the leg in front of it ends. So a repaired trip without rides can
be taken if no leg ends before it starts. -/
theorem repaired_travelable_iff (t : Trip) :
    (t.repaired.1.isTravelable = true ↔
      (∀ r ∈ t.rides, r.isCancelled = false) ∧
      (∀ l ∈ t.repaired.1.legs, l.departure.ms ≤ l.arrival.ms) ∧
      t.repaired.1.legs.IsChain Leg.FollowsIfRide) ∧
    (t.rides = [] → (∀ l ∈ t.repaired.1.legs, l.departure.ms ≤ l.arrival.ms) →
      t.repaired.1.isTravelable = true) := by
  refine ⟨t.isTravelable_repaired_iff, ?_⟩
  intro rideless forward
  have runs : ∀ r ∈ t.rides, r.isCancelled = false := by
    rw [rideless]
    exact List.forall_mem_nil _
  have waits := isChain_of_rides_eq_nil (t.rides_repaired.trans rideless)
  exact t.isTravelable_repaired_iff.2 ⟨runs, forward, waits⟩

/-! ## A walk that starts too early

The walk from the tram starts five minutes before the tram gets there. -/

def hurried : Trip :=
  { commute with
    legs := commute.legs.dropLast ++
      [.own ⟨.walk, seafront, ⟨2100000, .network⟩, office, ⟨2220000, .network⟩, 140, none⟩]
    nonempty := List.concat_ne_nil _ _ }

/-- The hurried way to work cannot be taken as it is, and can be when the walk waits for the tram.
-/
theorem repaired_travelable_iff_hurried :
    hurried.isTravelable = false ∧ (∀ r ∈ hurried.rides, r.isCancelled = false) ∧
      (∀ l ∈ hurried.repaired.1.legs, l.departure.ms ≤ l.arrival.ms) ∧
      (hurried.repaired.1.legs.IsChain Leg.FollowsIfRide) ∧
      hurried.repaired.1.isTravelable = true := by
  have runs : ∀ r ∈ hurried.rides, r.isCancelled = false := by decide
  have forward : ∀ l ∈ hurried.repaired.1.legs, l.departure.ms ≤ l.arrival.ms := by decide
  have waits : hurried.repaired.1.legs.IsChain Leg.FollowsIfRide := by decide
  exact ⟨by decide, runs, forward, waits,
    (repaired_travelable_iff hurried).1.2 ⟨runs, forward, waits⟩⟩

end Trip

end Itinerary
