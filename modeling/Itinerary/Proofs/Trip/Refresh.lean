import Itinerary.Proofs.Trip.Agreement
import Itinerary.Proofs.Trip.DerivedId

/-!
# What a refresh leaves alone

Backends tell of the same trip again and again, and what they predict of it changes: times, platforms,
cancellations, messages, seats, the stops on the way, how long a walk takes and whether it is one.
What stays is the plan: which kinds of legs there are, between which places, and of each ride the
planned times, the line and the journey of the vehicle (`Leg.Refreshed`).

No id looks at anything but the plan. So a refresh keeps the id of a trip, and its unique id as well
where all rides are planned at both ends (`Trip.ids_of_refreshed`). The condition is needed: the
unique id takes a predicted time where no planned one is known.
-/

namespace Itinerary

open Time (Moment)

/-! ## Rides -/

namespace Ride

/-- Two rides by the same plan: between the same places at the same planned instants, or without them,
on the same line and the same journey. -/
structure Refreshed (a b : Ride) : Prop where
  start : a.departureStop.location.identity = b.departureStop.location.identity
  finish : a.arrivalStop.location.identity = b.arrivalStop.location.identity
  plannedDeparture : a.plannedDeparture = b.plannedDeparture
  plannedArrival : a.plannedArrival = b.plannedArrival
  lineId : a.line.id = b.line.id
  product : a.line.product = b.line.product
  label : a.line.label = b.line.label
  journey : a.journey = b.journey

/-- A ride that is planned at both ends. -/
def Planned (r : Ride) : Prop := r.plannedDeparture.isSome ∧ r.plannedArrival.isSome

instance (r : Ride) : Decidable r.Planned :=
  inferInstanceAs (Decidable (r.plannedDeparture.isSome ∧ r.plannedArrival.isSome))

variable {a b r : Ride} {ms : Int}

/-- A ride is boarded as planned, if that is known. -/
theorem boarding_ms (planned : r.plannedDeparture = some ms) : r.boarding.ms = ms := by
  obtain ⟨m, known, rfl⟩ := Option.map_eq_some_iff.1 planned
  have chosen := r.departureStop_departure true
  rw [Stop.departure, choose, known] at chosen
  exact congrArg Moment.ms (Option.some.inj chosen).symm

/-- A ride is left as planned, if that is known. -/
theorem leaving_ms (planned : r.plannedArrival = some ms) : r.leaving.ms = ms := by
  obtain ⟨m, known, rfl⟩ := Option.map_eq_some_iff.1 planned
  have chosen := r.arrivalStop_arrival true
  rw [Stop.arrival, choose, known] at chosen
  exact congrArg Moment.ms (Option.some.inj chosen).symm

namespace Refreshed

variable (refreshed : a.Refreshed b)
include refreshed

/-- Rides by the same plan are alike in what the id of a trip looks at. -/
theorem alike : a.Alike b where
  start := refreshed.start
  finish := refreshed.finish
  plan := .inl ⟨refreshed.plannedDeparture, refreshed.plannedArrival⟩
  product := congrArg Product.codeOf refreshed.product
  label := congrArg (·.getD "") refreshed.label

/-- A ride with a planned departure is boarded at the same instant, whatever is predicted. -/
theorem boarding (planned : a.Planned) : a.boarding.ms = b.boarding.ms := by
  obtain ⟨ms, known⟩ := Option.isSome_iff_exists.1 planned.1
  rw [boarding_ms known, boarding_ms (refreshed.plannedDeparture ▸ known)]

/-- A ride with a planned arrival is left at the same instant, whatever is predicted. -/
theorem leaving (planned : a.Planned) : a.leaving.ms = b.leaving.ms := by
  obtain ⟨ms, known⟩ := Option.isSome_iff_exists.1 planned.2
  rw [leaving_ms known, leaving_ms (refreshed.plannedArrival ▸ known)]

/-- Under both planned times, predictions do not reach the key of a ride. -/
theorem key (planned : a.Planned) (digest : String → UInt64) : a.key digest = b.key digest := by
  have boarding : a.boarding.minute = b.boarding.minute :=
    congrArg (· / 60000) (refreshed.boarding planned)
  have leaving : a.leaving.minute = b.leaving.minute :=
    congrArg (· / 60000) (refreshed.leaving planned)
  unfold Ride.key journeyKey lineKey
  rw [refreshed.start, refreshed.finish, refreshed.lineId, refreshed.label, refreshed.journey,
    boarding, leaving]

end Refreshed

end Ride

/-! ## Legs -/

namespace Leg

/-- Two legs of the same kind by the same plan. Of a traveller's own leg only the ends are planned. -/
inductive Refreshed : Leg → Leg → Prop
  | own {a b : OwnLeg} (start : a.start.identity = b.start.identity)
    (finish : a.finish.identity = b.finish.identity) : Refreshed (.own a) (.own b)
  | ride {a b : Ride} (refreshed : a.Refreshed b) : Refreshed (.ride a) (.ride b)

variable {a b : Leg}

/-- Legs by the same plan are alike in what the id of a trip looks at. -/
theorem Refreshed.alike (refreshed : a.Refreshed b) : a.Alike b := by
  cases refreshed with
  | own start finish => exact .own start finish
  | ride refreshed => exact .ride refreshed.alike

/-- Of legs by the same plan, both are rides or none is. -/
theorem Refreshed.ride? (refreshed : a.Refreshed b) : Option.Rel Ride.Refreshed a.ride? b.ride? := by
  cases refreshed with
  | own start finish => exact .none
  | ride refreshed => exact .some refreshed

end Leg

/-! ## Trips -/

namespace Trip

variable {a b : Trip}

/-- Two trips with the same explicit id or none, whose legs are by the same plan one by one, have the
same id, whatever else is told of them; and if all rides are planned at both ends, they have the same
unique id. -/
theorem ids_of_refreshed (explicit : a.explicitId = b.explicitId)
    (legs : List.Forall₂ Leg.Refreshed a.legs b.legs) :
    a.id = b.id ∧
      ((∀ r ∈ a.rides, r.Planned) → ∀ digest, a.uniqueIdBy digest = b.uniqueIdBy digest) := by
  have id : a.id = b.id :=
    id_congr explicit
      (map_eq_of_forall₂ (fun _ _ same => Leg.mark_eq_of_alike same.alike) legs)
  refine ⟨id, fun planned digest => uniqueIdBy_congr id ?_⟩
  have rides : List.Forall₂ Ride.Refreshed a.rides b.rides :=
    List.rel_filterMap (fun _ _ same => same.ride?) legs
  have both : List.Forall₂ (fun r s => r.Planned ∧ r.Refreshed s) a.rides b.rides :=
    (List.forall₂_and_left _ _).2 ⟨planned, rides⟩
  exact map_eq_of_forall₂ (fun _ _ ⟨planned, same⟩ => same.key planned digest) both

/-! ## A bus that is late

The walk and the bus as they were planned, and as they run: by bike instead, with the bus late at
another stop of the quay and not served at the square. -/

def station : Location := .stationOf "station" "Station"

def asPlanned : Trip :=
  busTrip { Stop.bare quay with plannedDeparture := some ⟨0, .network⟩ }
    { Stop.bare square with plannedArrival := some ⟨600000, .network⟩ } rfl rfl

def asItRuns : Trip :=
  { asPlanned with
    legs := [.own ⟨.bike, hotel, ⟨-60000, .network⟩, quay, ⟨120000, .network⟩, 410, some []⟩,
      .ride {
        line := { Line.plain none none (some .bus) (some "7") with message := some "late" }
        destination := some station
        departureStop :=
          { Stop.bare { quay with name := some "Quay, stop C" } with
            plannedDeparture := some ⟨0, .minutes 60⟩
            predictedDeparture := some ⟨180000, .minutes 60⟩
            plannedDeparturePosition := some ⟨"A", none⟩
            predictedDeparturePosition := some ⟨"C", none⟩ }
        arrivalStop :=
          { Stop.bare square with
            plannedArrival := some ⟨600000, .minutes 60⟩
            predictedArrival := some ⟨840000, .minutes 60⟩
            arrivalCancelled := true }
        intermediateStops := [Stop.bare station]
        message := some "road works"
        journey := none
        entry := some quay
        exit := some station
        path := some []
        departs := rfl
        arrives := rfl }]
    created := ⟨300, 0⟩
    updated := ⟨600, 0⟩
    detailsLoaded := true
    nonempty := List.cons_ne_nil _ _ }

/-- The bus as it is planned and as it runs, late, cancelled at its end and from another platform, has
the same ids. -/
theorem ids_of_refreshed_bus :
    asPlanned.explicitId = asItRuns.explicitId ∧
      List.Forall₂ Leg.Refreshed asPlanned.legs asItRuns.legs ∧
      (∀ r ∈ asPlanned.rides, r.Planned) ∧
      asPlanned.id = asItRuns.id ∧ asPlanned.uniqueId = asItRuns.uniqueId := by
  have explicit : asPlanned.explicitId = asItRuns.explicitId := rfl
  have legs : List.Forall₂ Leg.Refreshed asPlanned.legs asItRuns.legs :=
    .cons (.own rfl rfl) (.cons (.ride ⟨rfl, rfl, rfl, rfl, rfl, rfl, rfl, rfl⟩) .nil)
  have planned : ∀ r ∈ asPlanned.rides, r.Planned := by decide
  obtain ⟨id, unique⟩ := ids_of_refreshed explicit legs
  exact ⟨explicit, legs, planned, id, unique planned Digest.ofText⟩

end Trip

end Itinerary
