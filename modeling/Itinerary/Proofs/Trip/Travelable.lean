import Itinerary.Proofs.Time.Reach
import Itinerary.Trip.Basic
import Mathlib.Data.List.Chain

/-!
# Trips that can be taken

A trip can be taken if no ride of it is cancelled and its times are in order. Each time is compared
with the one in front of it alone (`Trip.inOrder`), and that settles the order of any two of them
(`Trip.inOrder_iff_pairwise`). So all that happens on such a trip happens between its departure and
its arrival, and neither the trip nor what is ridden of it takes less than no time
(`Trip.travels_in_order`).

Said of the legs, the times are in order if no leg ends before it starts and each leg follows the
one in front of it (`Trip.inOrder_times_iff`).
-/

namespace Itinerary

open Time (Moment Duration)

/-- A leg that starts when the one in front of it has ended. -/
def Leg.Follows (front l : Leg) : Prop := front.arrival.ms ≤ l.departure.ms

instance (front l : Leg) : Decidable (front.Follows l) :=
  inferInstanceAs (Decidable (front.arrival.ms ≤ l.departure.ms))

namespace Trip

variable {t : Trip} {times : List Moment} {first last : Moment}

/-! ## Moments in order -/

/-- The check of the times compares neighbours. -/
theorem inOrder_iff_isChain (times : List Moment) :
    inOrder times = true ↔ times.IsChain fun a b => a.ms ≤ b.ms := by
  fun_induction inOrder times with
  | case1 a b rest ih =>
    rw [Bool.and_eq_true, Bool.not_eq_true', Moment.before_eq_false_iff, ih,
      List.isChain_cons_cons]
  | case2 times short =>
    rcases times with _ | ⟨a, _ | ⟨b, rest⟩⟩
    · exact iff_of_true rfl .nil
    · exact iff_of_true rfl (.singleton a)
    · exact absurd rfl (short a b rest)

/-- The order of neighbours is the order of all. -/
theorem inOrder_iff_pairwise (times : List Moment) :
    inOrder times = true ↔ times.Pairwise fun a b => a.ms ≤ b.ms := by
  have : Trans (fun a b : Moment => a.ms ≤ b.ms) (fun a b : Moment => a.ms ≤ b.ms)
      fun a b : Moment => a.ms ≤ b.ms := ⟨Int.le_trans⟩
  rw [inOrder_iff_isChain, List.isChain_iff_pairwise]

/-- What is in order lies between its first and its last. -/
theorem between_of_pairwise (ordered : times.Pairwise fun a b => a.ms ≤ b.ms)
    (starts : times.head? = some first) (ends : times.getLast? = some last) :
    ∀ m ∈ times, first.ms ≤ m.ms ∧ m.ms ≤ last.ms := by
  intro m mem
  constructor
  · obtain ⟨rest, rfl⟩ := List.head?_eq_some_iff.1 starts
    rcases List.mem_cons.1 mem with rfl | later
    · exact Int.le_refl _
    · exact List.rel_of_pairwise_cons ordered later
  · obtain ⟨front, rfl⟩ := List.getLast?_eq_some_iff.1 ends
    rcases List.mem_append.1 mem with earlier | here
    · exact (List.pairwise_append.1 ordered).2.2 m earlier last (List.mem_singleton_self last)
    · exact Int.le_of_eq (congrArg Moment.ms (List.mem_singleton.1 here))

/-- The first of departures and arrivals in turn is the first departure. -/
theorem head?_flatMap_pair {α : Type} (departure arrival : α → Moment) (legs : List α) :
    (legs.flatMap fun l => [departure l, arrival l]).head? = legs.head?.map departure := by
  cases legs with
  | nil => rfl
  | cons l legs => rfl

/-- The last of departures and arrivals in turn is the last arrival. -/
theorem getLast?_flatMap_pair {α : Type} (departure arrival : α → Moment) (legs : List α) :
    (legs.flatMap fun l => [departure l, arrival l]).getLast? = legs.getLast?.map arrival := by
  induction legs using List.reverseRecOn with
  | nil => rfl
  | append_singleton legs l =>
    rw [List.flatMap_append, List.flatMap_singleton, List.getLast?_append, List.getLast?_append]
    rfl

/-! ## The times of a trip -/

theorem mem_rides_iff {r : Ride} : r ∈ t.rides ↔ .ride r ∈ t.legs := by
  constructor
  · intro mem
    obtain ⟨l, mem, given⟩ := List.mem_filterMap.1 mem
    cases l with
    | own l => cases given
    | ride s =>
      cases given
      exact mem
  · intro mem
    exact List.mem_filterMap.2 ⟨.ride r, mem, rfl⟩

/-- A trip can be taken if no ride is cancelled and its times are in order. -/
theorem isTravelable_eq_true_iff (t : Trip) :
    t.isTravelable = true ↔
      (∀ r ∈ t.rides, r.isCancelled = false) ∧ inOrder t.times = true := by
  rw [isTravelable, Bool.and_eq_true, Bool.not_eq_true', List.any_eq_false]
  apply and_congr_left
  intro _
  constructor
  · intro runs r mem
    exact Bool.eq_false_iff.2 (runs _ (mem_rides_iff.1 mem))
  · intro runs l mem
    cases l with
    | own l => exact Bool.false_ne_true
    | ride r => exact Bool.eq_false_iff.1 (runs r (mem_rides_iff.2 mem))

/-- Departures and arrivals are in order if no leg ends before it starts and each leg follows the
one in front of it. -/
theorem inOrder_times_iff (t : Trip) :
    inOrder t.times = true ↔
      (∀ l ∈ t.legs, l.departure.ms ≤ l.arrival.ms) ∧ t.legs.IsChain Leg.Follows := by
  have filled : [] ∉ t.legs.map fun l => [l.departure, l.arrival] := by
    intro mem
    obtain ⟨l, -, empty⟩ := List.mem_map.1 mem
    cases empty
  rw [inOrder_iff_isChain, times, List.flatMap, List.isChain_flatten filled, List.forall_mem_map,
    List.isChain_map]
  simp only [List.isChain_pair, List.getLast?_cons_cons, List.getLast?_singleton, List.head?_cons,
    Option.mem_some_iff, forall_eq']
  rfl

theorem head?_times (t : Trip) : t.times.head? = some t.departure := by
  rw [times, head?_flatMap_pair, List.head?_eq_some_head t.nonempty]
  rfl

theorem getLast?_times (t : Trip) : t.times.getLast? = some t.arrival := by
  rw [times, getLast?_flatMap_pair, List.getLast?_eq_some_getLast t.nonempty]
  rfl

/-- The times of the rides are among those of the trip, in the same order. -/
theorem times_rides_sublist (t : Trip) :
    (t.rides.flatMap fun r => [r.departure false, r.arrival false]).Sublist t.times := by
  unfold rides times
  induction t.legs with
  | nil => exact List.Sublist.refl _
  | cons l legs ih =>
    cases l with
    | own l => exact (ih.cons _).cons _
    | ride r => exact (ih.cons_cons _).cons_cons _

/-- The riding time is from the first departure of a ride to the last arrival of one. -/
theorem exists_of_ridingTime {d : Duration} (known : t.ridingTime = some d) :
    ∃ first last, t.rides.head? = some first ∧ t.rides.getLast? = some last ∧
      d = (last.arrival false).since (first.departure false) := by
  obtain ⟨first, starts, known⟩ := Option.bind_eq_some_iff.1 known
  obtain ⟨last, ends, known⟩ := Option.bind_eq_some_iff.1 known
  exact ⟨first, last, starts, ends, (Option.some.inj known).symm⟩

/-- There is a riding time just if there is a ride. -/
theorem isSome_ridingTime_iff (t : Trip) :
    t.ridingTime.isSome = true ↔ ∃ r, .ride r ∈ t.legs := by
  constructor
  · intro known
    obtain ⟨d, known⟩ := Option.isSome_iff_exists.1 known
    obtain ⟨first, last, starts, ends, -⟩ := exists_of_ridingTime known
    exact ⟨first, mem_rides_iff.1 (List.mem_of_mem_head? starts)⟩
  · rintro ⟨r, mem⟩
    have ridden : t.rides ≠ [] := List.ne_nil_of_mem (mem_rides_iff.2 mem)
    unfold ridingTime
    rw [List.head?_eq_some_head ridden, List.getLast?_eq_some_getLast ridden]
    rfl

/-- On a trip whose times are in order, what is ridden takes some time, and no more than all. -/
theorem ridingTime_bounds (ordered : t.times.Pairwise fun a b => a.ms ≤ b.ms) {d : Duration}
    (known : t.ridingTime = some d) : 0 ≤ d.ms ∧ d.ms ≤ t.duration.ms := by
  obtain ⟨first, last, starts, ends, rfl⟩ := exists_of_ridingTime known
  have among := t.times_rides_sublist
  have head := (head?_flatMap_pair (·.departure false) (·.arrival false) t.rides).trans
    (congrArg (Option.map _) starts)
  have tail := (getLast?_flatMap_pair (·.departure false) (·.arrival false) t.rides).trans
    (congrArg (Option.map _) ends)
  have boards := List.mem_of_mem_head? head
  have leaves := List.mem_of_mem_getLast? tail
  -- Boarding and leaving are in order among the rides, and both are among all times.
  have rides := between_of_pairwise (ordered.sublist among) head tail
  have all := between_of_pairwise ordered t.head?_times t.getLast?_times
  exact ⟨Moment.since_nonneg (rides _ boards).2,
    Moment.since_mono (all _ (among.subset boards)).1 (all _ (among.subset leaves)).2⟩

/-- A trip can be taken exactly if nobody is kept from boarding or leaving a ride, and of all its
departures and arrivals no earlier one is later than a later one. Then everything on the trip
happens between its departure and its arrival, the trip takes no less than no time, and neither does
what is ridden of it, which takes no longer than all of it. There is a riding time exactly if there
is a ride. -/
theorem travels_in_order (t : Trip) :
    (t.isTravelable = true ↔
      (∀ r, .ride r ∈ t.legs → r.departureStop.departureCancelled = false ∧
        r.arrivalStop.arrivalCancelled = false) ∧
      t.times.Pairwise fun a b => a.ms ≤ b.ms) ∧
    (t.isTravelable = true →
      (∀ l ∈ t.legs, (t.departure.ms ≤ l.departure.ms ∧ l.departure.ms ≤ t.arrival.ms) ∧
        t.departure.ms ≤ l.arrival.ms ∧ l.arrival.ms ≤ t.arrival.ms) ∧
      0 ≤ t.duration.ms ∧
      ∀ d, t.ridingTime = some d → 0 ≤ d.ms ∧ d.ms ≤ t.duration.ms) ∧
    (t.ridingTime.isSome = true ↔ ∃ r, .ride r ∈ t.legs) := by
  have travelable := t.isTravelable_eq_true_iff
  rw [inOrder_iff_pairwise] at travelable
  refine ⟨?_, ?_, t.isSome_ridingTime_iff⟩
  · rw [travelable]
    simp only [mem_rides_iff, Ride.isCancelled, Bool.or_eq_false_iff]
  · intro travels
    have ordered := (travelable.1 travels).2
    have all := between_of_pairwise ordered t.head?_times t.getLast?_times
    refine ⟨?_, ?_, fun d known => ridingTime_bounds ordered known⟩
    · intro l mem
      have departs : l.departure ∈ t.times :=
        List.mem_flatMap.2 ⟨l, mem, List.mem_cons_self⟩
      have arrives : l.arrival ∈ t.times :=
        List.mem_flatMap.2 ⟨l, mem, List.mem_cons_of_mem _ (List.mem_singleton_self _)⟩
      exact ⟨all _ departs, all _ arrives⟩
    · exact Moment.since_nonneg (all _ (List.mem_of_mem_head? t.head?_times)).2

/-! ## The way to work

A walk to a tram, the tram, and a walk from its last stop. -/

def home : Location := { Location.ofName .address "Mill Lane 3" with place := some "Hilltop" }

def hilltop : Location := .stationOf "hilltop" "Hilltop"

def seafront : Location := .stationOf "seafront" "Seafront"

def office : Location := { Location.ofName .address "Quay Street 12" with place := some "Seafront" }

def commute : Trip :=
  .ofLegs ⟨0, 0⟩ none home office
    [.own ⟨.walk, home, ⟨0, .network⟩, hilltop, ⟨300000, .network⟩, 350, none⟩,
    .ride (.ofStops (.plain none none (some .tram) (some "M4")) none
      { Stop.bare hilltop with plannedDeparture := some ⟨600000, .network⟩ }
      { Stop.bare seafront with plannedArrival := some ⟨2400000, .network⟩ } rfl rfl),
    .own ⟨.walk, seafront, ⟨2400000, .network⟩, office, ⟨2520000, .network⟩, 140, none⟩]
    (List.cons_ne_nil _ _)

/-- The way to work can be taken: its legs are within 42 minutes, of which the tram takes 30. -/
theorem travels_in_order_commute :
    commute.isTravelable = true ∧
      (∀ l ∈ commute.legs, (0 ≤ l.departure.ms ∧ l.departure.ms ≤ 2520000) ∧
        0 ≤ l.arrival.ms ∧ l.arrival.ms ≤ 2520000) ∧
      commute.ridingTime = some (.clamp 1800000) ∧
      (Duration.clamp 1800000).ms ≤ commute.duration.ms := by
  have travels : commute.isTravelable = true := by decide
  have riding : commute.ridingTime = some (.clamp 1800000) := by decide
  obtain ⟨within, -, shorter⟩ := (travels_in_order commute).2.1 travels
  exact ⟨travels, within, riding, (shorter _ riding).2⟩

end Trip

end Itinerary
