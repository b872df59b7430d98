import Itinerary.Proofs.Order.Listing
import Itinerary.Proofs.Time.ReadBack
import Itinerary.Trip.Identity

/-!
# Trips that agree

Two trips agree if they are the same in everything but the offsets of their times, and for those
offsets stand the same words (`Trip.Agrees`): leg by leg, stop by stop and time by time. Ids,
changes, the duration and whether a trip can be taken follow from what agreeing trips have in
common, since of a time they look at the instant only.
-/

namespace Itinerary

open Time (Moment)

/-! ## Times and stops -/

/-- Agreeing choices are made between agreeing times. -/
theorem rel_choose {S : Moment → Moment → Prop} (preferPlanned : Bool)
    {planned predicted planned' predicted' : Option Moment} (same : Option.Rel S planned planned')
    (same' : Option.Rel S predicted predicted') :
    Option.Rel S (choose preferPlanned planned predicted)
      (choose preferPlanned planned' predicted') := by
  cases preferPlanned with
  | true =>
    cases same with
    | some agrees => exact .some agrees
    | none => exact same'
  | false =>
    cases same' with
    | some agrees => exact .some agrees
    | none => exact same

/-- Stops that are the same but for the offsets of their times. -/
structure Stop.Agrees (a b : Stop) : Prop where
  location : a.location = b.location
  plannedArrival : Option.Rel Moment.Agrees a.plannedArrival b.plannedArrival
  predictedArrival : Option.Rel Moment.Agrees a.predictedArrival b.predictedArrival
  plannedArrivalPosition : a.plannedArrivalPosition = b.plannedArrivalPosition
  predictedArrivalPosition : a.predictedArrivalPosition = b.predictedArrivalPosition
  arrivalCancelled : a.arrivalCancelled = b.arrivalCancelled
  plannedDeparture : Option.Rel Moment.Agrees a.plannedDeparture b.plannedDeparture
  predictedDeparture : Option.Rel Moment.Agrees a.predictedDeparture b.predictedDeparture
  plannedDeparturePosition : a.plannedDeparturePosition = b.plannedDeparturePosition
  predictedDeparturePosition : a.predictedDeparturePosition = b.predictedDeparturePosition
  departureCancelled : a.departureCancelled = b.departureCancelled

namespace Stop.Agrees

variable {a b : Stop} (agrees : a.Agrees b) (preferPlanned : Bool)
include agrees

theorem departure :
    Option.Rel Moment.Agrees (a.departure preferPlanned) (b.departure preferPlanned) :=
  rel_choose preferPlanned agrees.plannedDeparture agrees.predictedDeparture

theorem arrival : Option.Rel Moment.Agrees (a.arrival preferPlanned) (b.arrival preferPlanned) :=
  rel_choose preferPlanned agrees.plannedArrival agrees.predictedArrival

end Stop.Agrees

/-! ## Legs -/

/-- Legs without a timetable that are the same but for the offsets of their times. -/
structure OwnLeg.Agrees (a b : OwnLeg) : Prop where
  movement : a.movement = b.movement
  start : a.start = b.start
  departure : a.departure.Agrees b.departure
  finish : a.finish = b.finish
  arrival : a.arrival.Agrees b.arrival
  distance : a.distance = b.distance
  path : a.path = b.path

/-- Rides that are the same but for the offsets of the times of their stops. -/
structure Ride.Agrees (a b : Ride) : Prop where
  line : a.line = b.line
  destination : a.destination = b.destination
  departureStop : a.departureStop.Agrees b.departureStop
  arrivalStop : a.arrivalStop.Agrees b.arrivalStop
  intermediateStops : List.Forall₂ Stop.Agrees a.intermediateStops b.intermediateStops
  message : a.message = b.message
  journey : a.journey = b.journey
  entry : a.entry = b.entry
  exit : a.exit = b.exit
  path : a.path = b.path

namespace Ride.Agrees

variable {a b : Ride} (agrees : a.Agrees b)
include agrees

/-- The departures of agreeing rides are the same instant, under offsets with the same word. -/
theorem departure (preferPlanned : Bool) :
    (a.departure preferPlanned).Agrees (b.departure preferPlanned) := by
  have known := agrees.departureStop.departure preferPlanned
  rw [departureStop_departure, departureStop_departure] at known
  cases known with
  | some same => exact same

/-- The arrivals of agreeing rides are the same instant, under offsets with the same word. -/
theorem arrival (preferPlanned : Bool) :
    (a.arrival preferPlanned).Agrees (b.arrival preferPlanned) := by
  have known := agrees.arrivalStop.arrival preferPlanned
  rw [arrivalStop_arrival, arrivalStop_arrival] at known
  cases known with
  | some same => exact same

/-- The key of a ride looks at minutes, and agreeing rides have the same ones. -/
theorem key (digest : String → UInt64) : a.key digest = b.key digest := by
  have boarding : a.boarding.minute = b.boarding.minute :=
    congrArg (· / 60000) (agrees.departure true).ms
  have leaving : a.leaving.minute = b.leaving.minute :=
    congrArg (· / 60000) (agrees.arrival true).ms
  unfold Ride.key journeyKey lineKey
  rw [agrees.line, agrees.journey, agrees.departureStop.location, agrees.arrivalStop.location,
    boarding, leaving]

/-- Whether a ride is cancelled is said by its stops, without a time. -/
theorem isCancelled : a.isCancelled = b.isCancelled := by
  unfold Ride.isCancelled
  rw [agrees.departureStop.departureCancelled, agrees.arrivalStop.arrivalCancelled]

end Ride.Agrees

/-- Legs of the same kind that are the same but for the offsets of their times. -/
inductive Leg.Agrees : Leg → Leg → Prop
  | own {a b : OwnLeg} (agrees : a.Agrees b) : Agrees (.own a) (.own b)
  | ride {a b : Ride} (agrees : a.Agrees b) : Agrees (.ride a) (.ride b)

/-- The mark of a planned time is the instant, not the offset. -/
theorem plannedMark_of_rel {a b : Option Moment} (same : Option.Rel Moment.Agrees a b) :
    plannedMark a = plannedMark b := by
  cases same with
  | some agrees => rw [plannedMark, plannedMark, agrees.ms]
  | none => rfl

namespace Leg.Agrees

variable {a b : Leg} (agrees : a.Agrees b)
include agrees

/-- Agreeing legs have the same mark in the id of a trip. -/
theorem mark : a.mark = b.mark := by
  cases agrees with
  | own agrees =>
    unfold Leg.mark
    simp only [start, finish, agrees.start, agrees.finish]
  | ride agrees =>
    unfold Leg.mark
    simp only [start, finish, agrees.departureStop.location, agrees.arrivalStop.location,
      plannedMark_of_rel agrees.departureStop.plannedDeparture,
      plannedMark_of_rel agrees.arrivalStop.plannedArrival, agrees.line]

/-- Of agreeing legs, both are rides or none is. -/
theorem ride? : Option.Rel Ride.Agrees a.ride? b.ride? := by
  cases agrees with
  | own agrees => exact .none
  | ride agrees => exact .some agrees

theorem departure : a.departure.Agrees b.departure := by
  cases agrees with
  | own agrees => exact agrees.departure
  | ride agrees => exact agrees.departure false

theorem arrival : a.arrival.Agrees b.arrival := by
  cases agrees with
  | own agrees => exact agrees.arrival
  | ride agrees => exact agrees.arrival false

theorem isCancelled : a.isCancelled = b.isCancelled := by
  cases agrees with
  | own agrees => rfl
  | ride agrees => exact agrees.isCancelled

end Leg.Agrees

/-! ## Trips -/

namespace Trip

/-- Trips that are the same but for the offsets of the times of their legs. -/
structure Agrees (a b : Trip) : Prop where
  explicitId : a.explicitId = b.explicitId
  origin : a.origin = b.origin
  destination : a.destination = b.destination
  legs : List.Forall₂ Leg.Agrees a.legs b.legs
  explicitChanges : a.explicitChanges = b.explicitChanges
  fares : a.fares = b.fares
  capacity : a.capacity = b.capacity
  created : a.created = b.created
  updated : a.updated = b.updated
  detailsLoaded : a.detailsLoaded = b.detailsLoaded
  transfers : a.transfers = b.transfers

/-- Whether times are in order is seen from their instants. -/
theorem inOrder_of_forall₂ {as bs : List Moment} (same : List.Forall₂ Moment.Agrees as bs) :
    inOrder as = inOrder bs := by
  induction same with
  | nil => rfl
  | cons first rest ih =>
    cases rest with
    | nil => rfl
    | cons second rest =>
      simp only [inOrder, Moment.before, first.ms, second.ms] at ih ⊢
      rw [ih]

namespace Agrees

variable {a b : Trip} (agrees : a.Agrees b)
include agrees

theorem rides : List.Forall₂ Ride.Agrees a.rides b.rides :=
  List.rel_filterMap (fun _ _ same => same.ride?) agrees.legs

theorem isEmpty_rides : a.rides.isEmpty = b.rides.isEmpty := by
  rw [Bool.eq_iff_iff, List.isEmpty_iff_length_eq_zero, List.isEmpty_iff_length_eq_zero,
    agrees.rides.length_eq]

theorem id : a.id = b.id :=
  id_congr agrees.explicitId (map_eq_of_forall₂ (fun _ _ same => same.mark) agrees.legs)

theorem uniqueIdBy (digest : String → UInt64) : a.uniqueIdBy digest = b.uniqueIdBy digest :=
  uniqueIdBy_congr agrees.id (map_eq_of_forall₂ (fun _ _ same => same.key digest) agrees.rides)

/-- Changes are counted by rides, so agreeing trips have as many. -/
theorem changes : a.changes = b.changes := by
  rw [Trip.changes, Trip.changes, agrees.explicitChanges, agrees.isEmpty_rides,
    agrees.rides.length_eq]

theorem departure : a.departure.ms = b.departure.ms := by
  have all : a.legs.map (·.departure.ms) = b.legs.map (·.departure.ms) :=
    map_eq_of_forall₂ (fun _ _ same => same.departure.ms) agrees.legs
  have first := congrArg List.head? all
  rw [List.head?_map, List.head?_map, List.head?_eq_some_head a.nonempty,
    List.head?_eq_some_head b.nonempty] at first
  exact Option.some.inj first

theorem arrival : a.arrival.ms = b.arrival.ms := by
  have all : a.legs.map (·.arrival.ms) = b.legs.map (·.arrival.ms) :=
    map_eq_of_forall₂ (fun _ _ same => same.arrival.ms) agrees.legs
  have last := congrArg List.getLast? all
  rw [List.getLast?_map, List.getLast?_map, List.getLast?_eq_some_getLast a.nonempty,
    List.getLast?_eq_some_getLast b.nonempty] at last
  exact Option.some.inj last

theorem duration : a.duration = b.duration := by
  rw [Trip.duration, Trip.duration, Moment.since, Moment.since, agrees.departure, agrees.arrival]

/-- Whether a trip can be taken goes by instants. -/
theorem isTravelable : a.isTravelable = b.isTravelable := by
  have cancelled : a.legs.map Leg.isCancelled = b.legs.map Leg.isCancelled :=
    map_eq_of_forall₂ (fun _ _ same => same.isCancelled) agrees.legs
  have any := congrArg (fun answers => answers.any fun answer => answer) cancelled
  have times : List.Forall₂ Moment.Agrees a.times b.times :=
    List.rel_flatMap agrees.legs fun _ _ same =>
      .cons same.departure (.cons same.arrival .nil)
  rw [List.any_map, List.any_map] at any
  rw [Trip.isTravelable, Trip.isTravelable, inOrder_of_forall₂ times]
  exact congrArg (!· && _) any

end Agrees

end Trip

end Itinerary
