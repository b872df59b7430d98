import Itinerary.Proofs.Time.Reach
import Itinerary.Trip.Basic

/-!
# The time that a trip may take at most

A stop of a ride may have a planned and a predicted time, and a trip may have many of both. Its
earliest time is the first of the earliest departures there are, and its latest time the last of the
latest arrivals (`Trip.envelope`). Which of several it is shows in the offset, the instant being the
same: of two legs the front one counts for departures and the hind one for arrivals, and of the two
times of a stop the planned one comes before the predicted one.

Three choices lie inside one another: between the two times of a stop, between the legs, and between
what is found so far and what comes next. They are one choice by one order (`Chooses`), and such a
choice finds the same wherever a list is cut in pieces (`Chosen.append`, `Chosen.foldl`).
-/

namespace Itinerary

open Time (Moment)

/-! ## Choices by an order -/

section Choice

variable {α β : Type} {prior : α → α → Prop} {pick : α → α → α} {items others : List α} {x y : α}

/-- An item that is prior to all that stand behind it, while none that stands in front of it is
prior to it. -/
def Chosen (prior : α → α → Prop) (items : List α) (x : α) : Prop :=
  ∃ before after, items = before ++ x :: after ∧ (∀ y ∈ before, ¬ prior y x) ∧
    ∀ y ∈ after, prior x y

/-- A choice that takes the former of two items just if it is prior to the latter. If an item is
prior to another one, then each third item stands behind the one or in front of the other. -/
structure Chooses (prior : α → α → Prop) (pick : α → α → α) : Prop where
  trans : ∀ {x y z}, prior x y → prior y z → prior x z
  cotrans : ∀ {x z}, prior x z → ∀ y, prior x y ∨ prior y z
  former : ∀ {x y}, prior x y → pick x y = x
  latter : ∀ {x y}, ¬ prior x y → pick x y = y

namespace Chosen

theorem singleton (prior : α → α → Prop) (x : α) : Chosen prior [x] x :=
  ⟨[], [], rfl, nofun, nofun⟩

/-- An item that was chosen stands against any other one. -/
theorem against (chosen : Chosen prior items x) (mem : y ∈ items) :
    y = x ∨ prior x y ∨ ¬ prior y x := by
  obtain ⟨before, after, rfl, front, behind⟩ := chosen
  rcases List.mem_append.1 mem with earlier | later
  · exact .inr (.inr (front y earlier))
  · rcases List.mem_cons.1 later with here | later
    · exact .inl here
    · exact .inr (.inl (behind y later))

/-- To choose from two lists, choose from each and then between the two items. -/
theorem append (chooses : Chooses prior pick) (left : Chosen prior items x)
    (right : Chosen prior others y) : Chosen prior (items ++ others) (pick x y) := by
  obtain ⟨before, after, rfl, front, behind⟩ := left
  obtain ⟨before', after', rfl, front', behind'⟩ := right
  -- The item that is chosen keeps its own list around it, and the other list is all on one side.
  by_cases first : prior x y
  · rw [chooses.former first]
    refine ⟨before, after ++ (before' ++ y :: after'), by simp, front, ?_⟩
    intro z mem
    rcases List.mem_append.1 mem with own | other
    · exact behind z own
    · rcases List.mem_append.1 other with earlier | later
      · exact (chooses.cotrans first z).resolve_right (front' z earlier)
      · rcases List.mem_cons.1 later with rfl | later
        · exact first
        · exact chooses.trans first (behind' z later)
  · rw [chooses.latter first]
    refine ⟨before ++ x :: after ++ before', after', by simp, ?_, behind'⟩
    intro z mem
    rcases List.mem_append.1 mem with other | own
    · rcases List.mem_append.1 other with earlier | later
      · intro prior_z
        exact (chooses.cotrans prior_z x).elim (front z earlier) first
      · rcases List.mem_cons.1 later with rfl | later
        · exact first
        · exact fun prior_z => first (chooses.trans (behind z later) prior_z)
    · exact front' z own

/-- To choose from many lists, choose from each and then from what was chosen, one after the other.
-/
theorem foldl (chooses : Chooses prior pick) {best : β → α} {list : β → List α}
    (each : ∀ b, Chosen prior (list b) (best b)) (bs : List β) (chosen : Chosen prior items x) :
    Chosen prior (items ++ bs.flatMap list) ((bs.map best).foldl pick x) := by
  induction bs generalizing items x with
  | nil => simpa using chosen
  | cons b bs ih =>
    have next := ih (chosen.append chooses (each b))
    rwa [List.append_assoc] at next

end Chosen

/-- What two moments combine to is chosen from those that are known. -/
theorem Stop.chosen_combine {prior : Moment → Moment → Prop} {pick : Moment → Moment → Moment}
    (chooses : Chooses prior pick) {planned predicted : Option Moment} {m : Moment}
    (known : combine pick planned predicted = some m) :
    Chosen prior (planned.toList ++ predicted.toList) m := by
  cases planned with
  | none =>
    rw [show predicted = some m from known]
    exact .singleton prior m
  | some a =>
    cases predicted with
    | none =>
      obtain rfl : a = m := Option.some.inj known
      exact .singleton prior a
    | some b =>
      obtain rfl : pick a b = m := Option.some.inj known
      exact .append chooses (.singleton prior a) (.singleton prior b)

end Choice

/-! ## Earliest and latest moments -/

namespace Time

variable {items : List Moment} {m n : Moment}

/-- The earliest of some moments, of several the first. -/
def FirstEarliest : List Moment → Moment → Prop := Chosen fun a b => a.ms ≤ b.ms

/-- The latest of some moments, of several the last. -/
def LastLatest : List Moment → Moment → Prop := Chosen fun a b => b.ms < a.ms

/-- Of two moments, the earlier one is chosen, and of two at one instant the first. -/
theorem Moment.chooses_earlier : Chooses (fun a b : Moment => a.ms ≤ b.ms) earlier where
  trans := Int.le_trans
  cotrans := by
    intro a c ordered b
    omega
  former := by
    intro a b ordered
    simp [earlier, before, Int.not_lt.2 ordered]
  latter := by
    intro a b reversed
    simp [earlier, before, Int.not_le.1 reversed]

/-- Of two moments, the later one is chosen, and of two at one instant the second. -/
theorem Moment.chooses_later : Chooses (fun a b : Moment => b.ms < a.ms) later where
  trans := fun first second => Int.lt_trans second first
  cotrans := by
    intro a c ordered b
    omega
  former := by
    intro a b ordered
    simp [later, before, ordered]
  latter := by
    intro a b reversed
    simp [later, before, reversed]

theorem FirstEarliest.le (first : FirstEarliest items m) (mem : n ∈ items) : m.ms ≤ n.ms := by
  rcases first.against mem with rfl | ordered | reversed
  · exact Int.le_refl _
  · exact ordered
  · omega

theorem LastLatest.le (last : LastLatest items m) (mem : n ∈ items) : n.ms ≤ m.ms := by
  rcases last.against mem with rfl | ordered | reversed
  · exact Int.le_refl _
  · omega
  · omega

end Time

/-! ## The times of a trip -/

open Time (Duration FirstEarliest LastLatest)

/-- What is chosen is the planned value or the predicted one. -/
theorem mem_of_choose {α : Type} {preferPlanned : Bool} {planned predicted : Option α} {x : α}
    (known : choose preferPlanned planned predicted = some x) :
    x ∈ planned.toList ++ predicted.toList := by
  cases preferPlanned <;> cases planned <;> cases predicted <;> simp_all [choose]

namespace Stop

/-- When a vehicle may leave the stop: as planned and as predicted. -/
def departureTimes (s : Stop) : List Moment :=
  s.plannedDeparture.toList ++ s.predictedDeparture.toList

/-- When a vehicle may arrive at the stop: as planned and as predicted. -/
def arrivalTimes (s : Stop) : List Moment :=
  s.plannedArrival.toList ++ s.predictedArrival.toList

end Stop

namespace Leg

/-- When the leg may start. -/
def departureTimes : Leg → List Moment
  | own l => [l.departure]
  | ride r => r.departureStop.departureTimes

/-- When the leg may end. -/
def arrivalTimes : Leg → List Moment
  | own l => [l.arrival]
  | ride r => r.arrivalStop.arrivalTimes

/-- A leg begins at the earliest of its times of departure. -/
theorem firstEarliest (l : Leg) : FirstEarliest l.departureTimes l.earliest := by
  cases l with
  | own l => exact .singleton _ l.departure
  | ride r => exact Stop.chosen_combine Moment.chooses_earlier (Option.some_get _).symm

/-- A leg ends at the latest of its times of arrival. -/
theorem lastLatest (l : Leg) : LastLatest l.arrivalTimes l.latest := by
  cases l with
  | own l => exact .singleton _ l.arrival
  | ride r => exact Stop.chosen_combine Moment.chooses_later (Option.some_get _).symm

/-- A leg departs at one of its times of departure. -/
theorem departure_mem (l : Leg) : l.departure ∈ l.departureTimes := by
  cases l with
  | own l => exact List.mem_singleton_self l.departure
  | ride r => exact mem_of_choose (r.departureStop_departure false)

/-- A leg arrives at one of its times of arrival. -/
theorem arrival_mem (l : Leg) : l.arrival ∈ l.arrivalTimes := by
  cases l with
  | own l => exact List.mem_singleton_self l.arrival
  | ride r => exact mem_of_choose (r.arrivalStop_arrival false)

end Leg

namespace Trip

/-- When a leg of the trip may start, leg by leg. -/
def departureTimes (t : Trip) : List Moment := t.legs.flatMap Leg.departureTimes

/-- When a leg of the trip may end, leg by leg. -/
def arrivalTimes (t : Trip) : List Moment := t.legs.flatMap Leg.arrivalTimes

/-- A trip begins at the earliest of all times of departure, of several at one instant at the first.
-/
theorem firstEarliest (t : Trip) : FirstEarliest t.departureTimes t.earliest := by
  have legs : t.departureTimes =
      t.firstLeg.departureTimes ++ t.legs.tail.flatMap Leg.departureTimes := by
    rw [departureTimes, firstLeg, ← List.flatMap_cons, List.cons_head_tail]
  rw [legs]
  exact Chosen.foldl Moment.chooses_earlier Leg.firstEarliest _ t.firstLeg.firstEarliest

/-- A trip ends at the latest of all times of arrival, of several at one instant at the last. -/
theorem lastLatest (t : Trip) : LastLatest t.arrivalTimes t.latest := by
  have legs : t.arrivalTimes =
      t.firstLeg.arrivalTimes ++ t.legs.tail.flatMap Leg.arrivalTimes := by
    rw [arrivalTimes, firstLeg, ← List.flatMap_cons, List.cons_head_tail]
  rw [legs]
  exact Chosen.foldl Moment.chooses_later Leg.lastLatest _ t.firstLeg.lastLatest

theorem departure_mem (t : Trip) : t.departure ∈ t.departureTimes :=
  List.mem_flatMap_of_mem (List.head_mem t.nonempty) t.firstLeg.departure_mem

theorem arrival_mem (t : Trip) : t.arrival ∈ t.arrivalTimes :=
  List.mem_flatMap_of_mem (List.getLast_mem t.nonempty) t.lastLeg.arrival_mem

/-- The earliest time of a trip is one of the times when a leg may start, and none of them is
earlier; of several that are earliest, it is the one of the first leg that has one, and at a stop
the planned one. The latest time is one of the times when a leg may end, and none of them is later;
of several that are latest, it is the one of the last leg that has one, and at a stop the predicted
one. So the trip lies between the two, and it takes no longer than from the one to the other. -/
theorem envelope (t : Trip) :
    (FirstEarliest t.departureTimes t.earliest ∧ ∀ m ∈ t.departureTimes, t.earliest.ms ≤ m.ms) ∧
    (LastLatest t.arrivalTimes t.latest ∧ ∀ m ∈ t.arrivalTimes, m.ms ≤ t.latest.ms) ∧
    t.earliest.ms ≤ t.departure.ms ∧ t.arrival.ms ≤ t.latest.ms ∧
    t.duration.ms ≤ (t.latest.since t.earliest).ms := by
  have starts : t.earliest.ms ≤ t.departure.ms := t.firstEarliest.le t.departure_mem
  have ends : t.arrival.ms ≤ t.latest.ms := t.lastLatest.le t.arrival_mem
  refine ⟨⟨t.firstEarliest, ?_⟩, ⟨t.lastLatest, ?_⟩, starts, ends, Moment.since_mono starts ends⟩
  · intro m mem
    exact t.firstEarliest.le mem
  · intro m mem
    exact t.lastLatest.le mem

/-! ## A tram that is on time

Its predicted times are the planned ones, and the change behind it takes no time. So the instants
say nothing about which moment is taken; the offsets do. -/

def terminus : Location := .stationOf "terminus" "Terminus"

def landing : Location := .stationOf "landing" "Ferry Landing"

def onTime : Trip :=
  .ofLegs ⟨0, 0⟩ none terminus landing
    [.ride (.ofStops (.plain none none (some .tram) (some "5")) none
      { Stop.bare terminus with
        plannedDeparture := some ⟨600000, .minutes 60⟩
        predictedDeparture := some ⟨600000, .network⟩ }
      { Stop.bare landing with
        plannedArrival := some ⟨2400000, .minutes 60⟩
        predictedArrival := some ⟨2400000, .network⟩ } rfl rfl),
    .own ⟨.transfer, landing, ⟨2400000, .network⟩, landing, ⟨2400000, .system⟩, 0, none⟩]
    (List.cons_ne_nil _ _)

/-- The planned departure and the end of the change bound the trip: their offsets tell them from the
moments at the same instants. -/
theorem envelope_onTime :
    onTime.earliest = ⟨600000, .minutes 60⟩ ∧ onTime.latest = ⟨2400000, .system⟩ ∧
      ⟨600000, .network⟩ ∈ onTime.departureTimes ∧ onTime.earliest.ms ≤ 600000 ∧
      ⟨2400000, .network⟩ ∈ onTime.arrivalTimes ∧ 2400000 ≤ onTime.latest.ms := by
  have predicted : ⟨600000, .network⟩ ∈ onTime.departureTimes := by decide
  have predicted' : ⟨2400000, .network⟩ ∈ onTime.arrivalTimes := by decide
  obtain ⟨⟨-, starts⟩, ⟨-, ends⟩, -⟩ := envelope onTime
  exact ⟨by decide, by decide, predicted, starts _ predicted, predicted', ends _ predicted'⟩

end Trip

end Itinerary
