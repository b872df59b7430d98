import Itinerary.Proofs.Json.Parts
import Itinerary.Trip.Document

/-!
# Trips have legs, and rides have times

That a trip has a leg and that the ends of a ride have times are parts of their types, so they hold
of every trip, however it was made and whatever was done to it. What follows is that the times of a
ride are those that its stops give, whatever might stand in for times that are not known, and that
they lie within its plausible times (`Ride.Timed`).

The other half is that no trip is made of what has no leg or no times. Where a trip and a ride are
put together, exactly these are refused (`Trip.exists_build_iff`, `Ride.exists_between_iff`). JSON
that describes one is refused by every reader, from a text and from memory, as an object and as an
array, whatever else it says (`Ride.exists_error_of_untimed`, `Trip.exists_error_of_empty`,
`Trip.exists_error_of_untimed`).
-/

namespace Itinerary

open Json
open Time (Moment Stamp)

/-! ## Times -/

/-- The earlier one of two moments is after neither. -/
theorem Time.Moment.earlier_le (a b : Moment) :
    (a.earlier b).ms ≤ a.ms ∧ (a.earlier b).ms ≤ b.ms := by
  unfold earlier before
  by_cases below : b.ms < a.ms
  · simp only [below, decide_true, if_true]
    omega
  · simp only [below, decide_false, Bool.false_eq_true, if_false]
    omega

/-- The later one of two moments is before neither. -/
theorem Time.Moment.le_later (a b : Moment) :
    a.ms ≤ (a.later b).ms ∧ b.ms ≤ (a.later b).ms := by
  unfold later before
  by_cases below : b.ms < a.ms
  · simp only [below, decide_true, if_true]
    omega
  · simp only [below, decide_false, Bool.false_eq_true, if_false]
    omega

/-- What two moments combine to stands to each of them as the way of combining does, so it does to
whichever of them is chosen. -/
theorem Stop.rel_combine {R : Moment → Moment → Prop} {pick : Moment → Moment → Moment}
    (refl : ∀ a, R a a) (each : ∀ a b, R (pick a b) a ∧ R (pick a b) b) {preferPlanned : Bool}
    {planned predicted : Option Moment} {combined chosen : Moment}
    (known : combine pick planned predicted = some combined)
    (known' : choose preferPlanned planned predicted = some chosen) : R combined chosen := by
  cases planned with
  | none =>
    cases predicted with
    | none => cases known
    | some b =>
      have same : chosen = b := by cases preferPlanned <;> exact (Option.some.inj known').symm
      obtain rfl : b = combined := Option.some.inj known
      exact same ▸ refl b
  | some a =>
    cases predicted with
    | none =>
      have same : chosen = a := by cases preferPlanned <;> exact (Option.some.inj known').symm
      obtain rfl : a = combined := Option.some.inj known
      exact same ▸ refl a
    | some b =>
      obtain rfl : pick a b = combined := Option.some.inj known
      cases preferPlanned with
      | true =>
        obtain rfl : a = chosen := Option.some.inj known'
        exact (each a b).1
      | false =>
        obtain rfl : b = chosen := Option.some.inj known'
        exact (each a b).2

namespace Ride

/-- A ride leaves and arrives when its stops say so, and not before its earliest departure or after
its latest arrival. -/
structure Timed (r : Ride) (preferPlanned : Bool) : Prop where
  departure_eq : r.departureStop.departure preferPlanned = some (r.departure preferPlanned)
  arrival_eq : r.arrivalStop.arrival preferPlanned = some (r.arrival preferPlanned)
  /-- Whatever stands in for an unknown departure is not used. -/
  departure_known (fallback : Moment) :
    (r.departureStop.departure preferPlanned).getD fallback = r.departure preferPlanned
  /-- Whatever stands in for an unknown arrival is not used. -/
  arrival_known (fallback : Moment) :
    (r.arrivalStop.arrival preferPlanned).getD fallback = r.arrival preferPlanned
  earliest_le : (Leg.ride r).earliest.ms ≤ (r.departure preferPlanned).ms
  le_latest : (r.arrival preferPlanned).ms ≤ (Leg.ride r).latest.ms

/-- Every ride keeps to what its stops say, with and without a preference for planned times. -/
theorem timed (r : Ride) (preferPlanned : Bool) : r.Timed preferPlanned := by
  have departs := r.departureStop_departure preferPlanned
  have arrives := r.arrivalStop_arrival preferPlanned
  have earliest : r.departureStop.earliest = some r.earliest := (Option.some_get _).symm
  have latest : r.arrivalStop.latest = some r.latest := (Option.some_get _).symm
  refine ⟨departs, arrives, fun fallback => ?_, fun fallback => ?_, ?_, ?_⟩
  · rw [departs, Option.getD_some]
  · rw [arrives, Option.getD_some]
  · exact Stop.rel_combine (R := fun a b => a.ms ≤ b.ms) (fun _ => Int.le_refl _)
      Moment.earlier_le earliest departs
  · exact Stop.rel_combine (R := fun a b => b.ms ≤ a.ms) (fun _ => Int.le_refl _)
      Moment.le_later latest arrives

/-- A ride is made between the stops that it was to be made between. -/
theorem stops_of_between {line : Line} {destination : Option Location}
    {departureStop arrivalStop : Stop} {r : Ride}
    (made : between line destination departureStop arrivalStop = .ok r) :
    r.departureStop = departureStop ∧ r.arrivalStop = arrivalStop := by
  unfold between at made
  split at made
  · split at made
    · cases made
      exact ⟨rfl, rfl⟩
    · contradiction
  · contradiction

/-- Two stops make a ride exactly where both times are known. -/
theorem exists_between_iff (line : Line) (destination : Option Location)
    (departureStop arrivalStop : Stop) :
    (∃ r, between line destination departureStop arrivalStop = .ok r) ↔
      departureStop.hasDeparture = true ∧ arrivalStop.hasArrival = true := by
  unfold between
  by_cases departs : departureStop.hasDeparture = true
  · rw [dif_pos departs]
    by_cases arrives : arrivalStop.hasArrival = true
    · rw [dif_pos arrives]
      exact ⟨fun _ => ⟨departs, arrives⟩, fun _ => ⟨_, rfl⟩⟩
    · rw [dif_neg arrives]
      refine ⟨fun made => ?_, fun known => absurd known.2 arrives⟩
      obtain ⟨r, made⟩ := made
      contradiction
  · rw [dif_neg departs]
    refine ⟨fun made => ?_, fun known => absurd known.1 departs⟩
    obtain ⟨r, made⟩ := made
    contradiction

end Ride

/-- A trip is made of the legs that it was to be made of. -/
theorem Trip.legs_of_build {now : Stamp} {explicitId : Option String}
    {origin destination : Location} {legs : List Leg} {t : Trip}
    (made : build now explicitId origin destination legs = .ok t) :
    t.legs = legs := by
  cases legs with
  | nil => cases made
  | cons leg rest =>
    cases made
    rfl

/-- Legs make a trip exactly where there is one. -/
theorem Trip.exists_build_iff (now : Stamp) (explicitId : Option String)
    (origin destination : Location) (legs : List Leg) :
    (∃ t, build now explicitId origin destination legs = .ok t) ↔ legs ≠ [] := by
  cases legs with
  | nil =>
    refine ⟨fun made => ?_, fun some => absurd rfl some⟩
    obtain ⟨t, made⟩ := made
    rw [build] at made
    contradiction
  | cons leg rest => exact ⟨fun _ => List.cons_ne_nil leg rest, fun _ => ⟨_, rfl⟩⟩

/-! ## JSON without times -/

namespace Stop

variable {mode : Mode} {source : Source} {s : Stop}

/-- A stop that is read has no departure where its source has none. -/
theorem hasDeparture_eq_false (given : reader mode source = .ok s)
    (planned : source.Lacks "planned_departure" 6)
    (predicted : source.Lacks "predicted_departure" 7) : s.hasDeparture = false := by
  have known : fields.From mode source 11 fun s => s.hasDeparture = false := by
    unfold fields
    iterate 3 refine .other ?_ (by simp)
    iterate 2 refine .seq ?_ (by simp)
    iterate 5 refine .other ?_ (by simp)
    refine .first fun _ _ _ _ _ _ _ departure read departure' read' => ?_
    intros
    obtain rfl : departure = none := read.eq_none planned
    obtain rfl : departure' = none := read'.eq_none predicted
    rfl
  exact known.record given

/-- A stop that is read has no arrival where its source has none. -/
theorem hasArrival_eq_false (given : reader mode source = .ok s)
    (planned : source.Lacks "planned_arrival" 1)
    (predicted : source.Lacks "predicted_arrival" 2) : s.hasArrival = false := by
  have known : fields.From mode source 11 fun s => s.hasArrival = false := by
    unfold fields
    iterate 8 refine .other ?_ (by simp)
    iterate 2 refine .seq ?_ (by simp)
    refine .first fun _ _ arrival read arrival' read' => ?_
    intros
    obtain rfl : arrival = none := read.eq_none planned
    obtain rfl : arrival' = none := read'.eq_none predicted
    rfl
  exact known.record given

end Stop

namespace Ride

variable {mode : Mode} {source : Source}

/-- What would be a ride, but its first stop says nothing of a departure or its last stop nothing of
an arrival. In an array the fields of the ride begin at a place. -/
def Untimed (source : Source) (start : Nat) : Prop :=
  (∀ stop ∈ source.part? "departure_stop" (start + 2),
    stop.Lacks "planned_departure" 6 ∧ stop.Lacks "predicted_departure" 7) ∨
  ∀ stop ∈ source.part? "arrival_stop" (start + 3),
    stop.Lacks "planned_arrival" 1 ∧ stop.Lacks "predicted_arrival" 2

/-- The two ends of a ride are what is read from their parts of a source. -/
structure EndsFrom (r : Ride) (mode : Mode) (source : Source) : Prop where
  departureStop : ∃ part, source.part? "departure_stop" 2 = some part ∧
    Stop.reader mode part = .ok r.departureStop
  arrivalStop : ∃ part, source.part? "arrival_stop" 3 = some part ∧
    Stop.reader mode part = .ok r.arrivalStop

/-- What JSON adds to a ride does not touch its ends. -/
theorem stops_of_assemble {line : Line} {destination : Option Location}
    {departureStop arrivalStop : Stop} {intermediateStops : List Stop} {message : Option String}
    {journey : Option JourneyRef} {entry exit : Option Location} {path : Path} {r : Ride}
    (made : assemble line destination departureStop arrivalStop intermediateStops message journey
      entry exit path = .ok r) :
    r.departureStop = departureStop ∧ r.arrivalStop = arrivalStop := by
  unfold assemble at made
  cases bare : between line destination departureStop arrivalStop with
  | error violation =>
    rw [bare] at made
    cases made
  | ok r' =>
    have ends := stops_of_between bare
    rw [bare] at made
    cases made
    exact ends

/-- Whatever the fields of a ride are read from, the ride has the two ends that stand there. -/
theorem fields_from (mode : Mode) (source : Source) :
    fields.From mode source 10 fun made => ∀ r, made = .ok r → r.EndsFrom mode source := by
  unfold fields
  iterate 6 refine .other ?_ (by simp)
  iterate 2 refine .seq ?_ (by simp)
  refine .other ?_ (by simp)
  refine .first fun _ _ _ departureStop read arrivalStop read' _ _ _ _ _ _ r made => ?_
  obtain ⟨rfl, rfl⟩ := stops_of_assemble made
  exact ⟨read.exists_part, read'.exists_part⟩

/-- A ride that was read has the ends that stand in the source. -/
theorem endsFrom_of_reader {r : Ride} (given : reader mode source = .ok r) :
    r.EndsFrom mode source := by
  obtain ⟨made, described, checked⟩ := Reader.exists_of_refine given
  cases made with
  | error violation => cases checked
  | ok r' =>
    obtain rfl : r' = r := Except.ok.inj checked
    exact (fields_from mode source).record described r' rfl

/-- No ride has its ends from a source without times. -/
theorem not_untimed {r : Ride} (ends : r.EndsFrom mode source) : ¬ Untimed source 0 := by
  rintro (untimed | untimed)
  · obtain ⟨part, here, read⟩ := ends.departureStop
    obtain ⟨planned, predicted⟩ := untimed part here
    have unknown := Stop.hasDeparture_eq_false read planned predicted
    rw [r.departs] at unknown
    cases unknown
  · obtain ⟨part, here, read⟩ := ends.arrivalStop
    obtain ⟨planned, predicted⟩ := untimed part here
    have unknown := Stop.hasArrival_eq_false read planned predicted
    rw [r.arrives] at unknown
    cases unknown

/-- A ride without a departure or without an arrival is refused. -/
theorem exists_error_of_untimed (mode : Mode) {source : Source} (untimed : Untimed source 0) :
    ∃ fault, reader mode source = .error fault := by
  refine Reader.exists_error_of_ne fun r given => ?_
  exact not_untimed (endsFrom_of_reader given) untimed

end Ride

/-! ## JSON of legs and trips -/

namespace Leg

/-- What would be a ride among other legs, but lacks a time. -/
def Untimed (source : Source) : Prop :=
  source.part? "leg" 0 = some (.str "public") ∧ Ride.Untimed source 1

/-- A leg that is a ride without a departure or without an arrival is refused. -/
theorem exists_error_of_untimed (mode : Mode) {source : Source} (untimed : Untimed source) :
    ∃ fault, reader mode source = .error fault := by
  obtain ⟨tagged, untimed⟩ := untimed
  refine Reader.exists_error_of_ne fun l given => ?_
  obtain ⟨read, rest, picked, given', parts⟩ := Reader.exists_of_tagged given tagged
  obtain rfl : Reader.map ride Ride.reader = read := Except.ok.inj picked
  obtain ⟨r, given'', -⟩ := exists_of_map_eq_ok given'
  apply Ride.not_untimed (Ride.endsFrom_of_reader given'')
  rw [Ride.Untimed, parts "departure_stop" 2 (by decide), parts "arrival_stop" 3 (by decide)]
  exact untimed

end Leg

namespace Trip

variable {now : Stamp} {mode : Mode} {source : Source}

/-- A trip that was put together from JSON has the legs that were read. -/
theorem legs_of_assemble {explicitId : Option String} {origin destination : Location}
    {legs : List Leg} {explicitChanges : Option UInt32} {fares : List Fare}
    {capacity : Option Capacity} {created updated : Option Stamp} {detailsLoaded : Bool}
    {transfers : List Transfer} {t : Trip}
    (made : assemble now explicitId origin destination legs explicitChanges fares capacity created
      updated detailsLoaded transfers = .ok t) : t.legs = legs := by
  unfold assemble at made
  cases bare : build now explicitId origin destination legs with
  | error violation =>
    rw [bare] at made
    cases made
  | ok t' =>
    have same := legs_of_build bare
    rw [bare] at made
    cases made
    exact same

/-- The legs of a trip that is read are read from their part, item by item. -/
theorem exists_legs {t : Trip} (given : reader now mode source = .ok t) :
    ∃ items closed, source.part? "legs" 3 = some (.arr items closed) ∧
      List.Forall₂ (fun item leg => Leg.reader mode item = .ok leg) items t.legs := by
  obtain ⟨made, described, checked⟩ := Reader.exists_of_refine given
  have known : (fields now).From mode source 11 fun made => ∀ t, made = .ok t →
      ∃ part, source.part? "legs" 3 = some part ∧ Leg.reader.list mode part = .ok t.legs := by
    unfold fields
    iterate 7 refine .other ?_ (by simp)
    refine .seq ?_ (by simp)
    iterate 2 refine .other ?_ (by simp)
    refine .first fun _ _ _ _ legs read _ _ _ _ _ _ _ t made => ?_
    obtain rfl := legs_of_assemble made
    exact read.exists_part
  cases made with
  | error violation => cases checked
  | ok t' =>
    obtain rfl : t' = t := Except.ok.inj checked
    obtain ⟨part, here, read⟩ := known.record described t' rfl
    obtain ⟨items, closed, rfl, each⟩ := Reader.exists_of_list read
    exact ⟨items, closed, here, each⟩

/-- A trip without legs is refused. -/
theorem exists_error_of_empty (now : Stamp) (mode : Mode) {source : Source} {closed : Bool}
    (empty : source.part? "legs" 3 = some (.arr [] closed)) :
    ∃ fault, reader now mode source = .error fault := by
  refine Reader.exists_error_of_ne fun t given => ?_
  obtain ⟨items, closed', here, each⟩ := exists_legs given
  obtain ⟨rfl, -⟩ := Source.arr.inj (Option.some.inj (empty.symm.trans here))
  exact t.nonempty (List.forall₂_nil_left_iff.1 each)

/-- A trip with a ride without times is refused. -/
theorem exists_error_of_untimed (now : Stamp) (mode : Mode) {source item : Source}
    {items : List Source} {closed : Bool}
    (legs : source.part? "legs" 3 = some (.arr items closed)) (among : item ∈ items)
    (untimed : Leg.Untimed item) : ∃ fault, reader now mode source = .error fault := by
  refine Reader.exists_error_of_ne fun t given => ?_
  obtain ⟨items', closed', here, each⟩ := exists_legs given
  obtain ⟨rfl, -⟩ := Source.arr.inj (Option.some.inj (legs.symm.trans here))
  obtain ⟨leg, given'⟩ := Reader.exists_of_mem each among
  obtain ⟨fault, refused⟩ := Leg.exists_error_of_untimed mode untimed
  rw [refused] at given'
  cases given'

/-- Every trip has a leg, and every ride in it has its times from its stops. Trips are made of the
legs that they are given, if there is one, and rides of the stops that they are given, if their
times are known. JSON of a ride without times, of a trip without legs and of a trip with such a ride
among its legs is refused. -/
theorem validity :
    (∀ t : Trip, t.legs ≠ [] ∧ ∀ r, Leg.ride r ∈ t.legs → ∀ preferPlanned, r.Timed preferPlanned) ∧
    (∀ (now : Stamp) (explicitId : Option String) (origin destination : Location)
      (legs : List Leg),
      ((∃ t, build now explicitId origin destination legs = .ok t) ↔ legs ≠ []) ∧
      ∀ t, build now explicitId origin destination legs = .ok t → t.legs = legs) ∧
    (∀ (line : Line) (destination : Option Location) (departureStop arrivalStop : Stop),
      (∀ preferPlanned, (∃ r, Ride.between line destination departureStop arrivalStop = .ok r) ↔
        (departureStop.departure preferPlanned).isSome ∧
          (arrivalStop.arrival preferPlanned).isSome) ∧
      ∀ r, Ride.between line destination departureStop arrivalStop = .ok r →
        r.departureStop = departureStop ∧ r.arrivalStop = arrivalStop) ∧
    (∀ (mode : Mode) (source : Source), Ride.Untimed source 0 →
      ∃ fault, Ride.reader mode source = .error fault) ∧
    ∀ (now : Stamp) (mode : Mode) (source : Source) (items : List Source) (closed : Bool),
      source.part? "legs" 3 = some (.arr items closed) →
      (items = [] ∨ ∃ item ∈ items, Leg.Untimed item) →
      ∃ fault, reader now mode source = .error fault := by
  refine ⟨fun t => ⟨t.nonempty, fun r _ => r.timed⟩, ?_, ?_,
    fun mode source => Ride.exists_error_of_untimed mode, ?_⟩
  · intro now explicitId origin destination legs
    exact ⟨exists_build_iff now explicitId origin destination legs, fun t => legs_of_build⟩
  · intro line destination departureStop arrivalStop
    refine ⟨fun preferPlanned => ?_, fun r => Ride.stops_of_between⟩
    rw [Stop.isSome_departure, Stop.isSome_arrival]
    exact Ride.exists_between_iff line destination departureStop arrivalStop
  · rintro now mode source items closed legs (rfl | ⟨item, among, untimed⟩)
    · exact exists_error_of_empty now mode legs
    · exact exists_error_of_untimed now mode legs among untimed

/-! ## A bus without a time -/

def depot : Location := .ofId .station "depot"

/-- JSON of a trip with one ride, whose departure may not be known. -/
def busJson (departure : Option Moment) : Json :=
  .obj [("from", depot.toJson), ("to", depot.toJson), ("legs", .arr [
    .obj [("leg", .str "public"), ("line", (Line.plain none none none none).toJson),
      ("departure_stop", Stop.toJson { Stop.bare depot with predictedDeparture := departure }),
      ("arrival_stop",
        Stop.toJson { Stop.bare depot with plannedArrival := some ⟨0, .network⟩ })]])]

/-- A bus with one predicted departure is read; without it there is no time of departure, and the
trip is refused. -/
theorem validity_bus :
    (∃ t, reader ⟨0, 0⟩ .inMemory (busJson (some ⟨0, .network⟩)).toSource = .ok t) ∧
      ∃ fault, reader ⟨0, 0⟩ .inMemory (busJson none).toSource = .error fault := by
  constructor
  · exact ⟨_, rfl⟩
  · refine validity.2.2.2.2 _ _ _ _ true rfl (.inr ⟨_, List.mem_singleton_self _, rfl, .inl ?_⟩)
    intro stop here
    obtain rfl := Option.some.inj here
    constructor
    · intro part there
      exact (Option.some.inj there).symm
    · intro part there
      exact (Option.some.inj there).symm

end Trip

end Itinerary
