import Itinerary.Leg.Basic
import Itinerary.Proofs.Place.PathText
import Itinerary.Proofs.Place.ReadBack
import Itinerary.Proofs.Time.ReadBack

/-!
# Reading legs back

What is written of a leg is read as the leg with its times read back (`Leg.reread`): each of its
parts is read by its own reader, its path too if its points can be counted in a word (`Path.Fits`),
and the times that a ride needs are there again because they were there before.
-/

namespace Itinerary

open Json
open Time (Moment)

/-! ## What stops and lines are described with -/

/-- A path is read back from its text, if its points can be counted in the text at all. -/
theorem Path.readsBack {path : Path} (fits : path.Fits) :
    Path.reader.ReadsBack Path.toJson path := by
  have made : (Path.decode path.encode).mapError Path.Defect.message = .ok path := by
    rw [Path.decode_eq_ok_iff_fits.2 ⟨fits, rfl⟩]
    rfl
  exact .refine Path.encode (.text path.encode) made

theorem Position.readsBack (p : Position) : Position.reader.ReadsBack Position.toJson p :=
  Fields.Reads.record <|
    Fields.Reads.map Position.mk (.field (.text p.name))
      |>.seq (.field (.optText p.section)) (by simp)

theorem Product.readsBack (p : Product) : Product.reader.ReadsBack Product.toJson p :=
  .variant (by cases p <;> rfl)

theorem Shape.readsBack (s : Shape) : Shape.reader.ReadsBack Shape.toJson s :=
  .variant (by cases s <;> rfl)

theorem Style.readsBack (s : Style) : Style.reader.ReadsBack Style.toJson s :=
  Fields.Reads.record <|
    Fields.Reads.map Style.mk (.field s.shape.readsBack)
      |>.seq (.field (.uint32 s.background)) (by simp)
      |>.seq (.field (.uint32 s.foreground)) (by simp)
      |>.seq (.field (.optional (fun c _ => .uint32 c) fun _ => nofun)) (by simp)

/-- A line is read back with its style, whatever is missing. -/
theorem Line.readsBack (l : Line) : Line.reader.ReadsBack Line.toJson l :=
  Fields.Reads.record <|
    Fields.Reads.map Line.mk (.field (.optText l.id))
      |>.seq (.field (.optText l.network)) (by simp)
      |>.seq (.field (.optional (fun p _ => p.readsBack) fun _ => nofun)) (by simp)
      |>.seq (.field (.optText l.label)) (by simp)
      |>.seq (.field (.optText l.name)) (by simp)
      |>.seq (.field (.optional (fun s _ => s.readsBack) fun _ => nofun)) (by simp)
      |>.seq (.field (.optText l.message)) (by simp)

theorem JourneyRef.readsBack (r : JourneyRef) : JourneyRef.reader.ReadsBack JourneyRef.toJson r :=
  fun _ => rfl

theorem Movement.readsBack (m : Movement) : Movement.reader.ReadsBack Movement.toJson m :=
  .variant (by cases m <;> rfl)

/-! ## Stops -/

namespace Stop

/-- The stop with its times read back. -/
def reread (s : Stop) : Stop :=
  { s with
    plannedArrival := s.plannedArrival.map Moment.reread
    predictedArrival := s.predictedArrival.map Moment.reread
    plannedDeparture := s.plannedDeparture.map Moment.reread
    predictedDeparture := s.predictedDeparture.map Moment.reread }

/-- A stop is read with its times as they look after one trip through their texts. -/
theorem accepts_reread (s : Stop) : reader.Accepts s.toJson s.reread := by
  have time (o : Option Moment) :
      Moment.reader.optional.Accepts (.opt Moment.toJson o) (o.map Moment.reread) :=
    .optional (fun m _ => m.accepts_reread) fun _ => nofun
  have position (o : Option Position) :
      Position.reader.optional.ReadsBack (.opt Position.toJson) o :=
    .optional (fun p _ => p.readsBack) fun _ => nofun
  exact Fields.Reads.record <|
    Fields.Reads.map Stop.mk (.field s.location.readsBack)
      |>.seq (.accepted (time s.plannedArrival)) (by simp)
      |>.seq (.accepted (time s.predictedArrival)) (by simp)
      |>.seq (.field (position s.plannedArrivalPosition)) (by simp)
      |>.seq (.field (position s.predictedArrivalPosition)) (by simp)
      |>.seq (.field (.bool s.arrivalCancelled)) (by simp)
      |>.seq (.accepted (time s.plannedDeparture)) (by simp)
      |>.seq (.accepted (time s.predictedDeparture)) (by simp)
      |>.seq (.field (position s.plannedDeparturePosition)) (by simp)
      |>.seq (.field (position s.predictedDeparturePosition)) (by simp)
      |>.seq (.field (.bool s.departureCancelled)) (by simp)

theorem hasDeparture_reread (s : Stop) : s.reread.hasDeparture = s.hasDeparture := by
  simp only [hasDeparture, reread, Option.isSome_map]

theorem hasArrival_reread (s : Stop) : s.reread.hasArrival = s.hasArrival := by
  simp only [hasArrival, reread, Option.isSome_map]

end Stop

/-! ## Legs -/

namespace OwnLeg

/-- The leg with its times read back. -/
def reread (l : OwnLeg) : OwnLeg :=
  { l with departure := l.departure.reread, arrival := l.arrival.reread }

/-- A traveller's own leg is read from its fields. -/
theorem accepts_reread {l : OwnLeg} (fits : l.path.Fits) :
    reader.Accepts (.obj l.entries) l.reread :=
  Fields.Reads.record <|
    Fields.Reads.map OwnLeg.mk (.field l.movement.readsBack)
      |>.seq (.field l.start.readsBack) (by simp)
      |>.seq (.accepted l.departure.accepts_reread) (by simp)
      |>.seq (.field l.finish.readsBack) (by simp)
      |>.seq (.accepted l.arrival.accepts_reread) (by simp)
      |>.seq (.field (.uint32 l.distance)) (by simp)
      |>.seq (.field (Path.readsBack fits)) (by simp)

end OwnLeg

namespace Ride

/-- The ride with its times read back. -/
def reread (r : Ride) : Ride :=
  { r with
    departureStop := r.departureStop.reread
    arrivalStop := r.arrivalStop.reread
    intermediateStops := r.intermediateStops.map Stop.reread
    departs := r.departureStop.hasDeparture_reread.trans r.departs
    arrives := r.arrivalStop.hasArrival_reread.trans r.arrives }

/-- The fields of a ride are put together without a violation. -/
theorem assemble_fields (r : Ride) :
    assemble r.line r.destination r.departureStop r.arrivalStop r.intermediateStops r.message
      r.journey r.entry r.exit r.path = .ok r := by
  unfold assemble between
  rw [dif_pos r.departs, dif_pos r.arrives]
  rfl

/-- A ride is read from its fields: its first stop still has a departure and its last one an
arrival. -/
theorem accepts_reread {r : Ride} (fits : r.path.Fits) :
    reader.Accepts (.obj r.entries) r.reread := by
  have place (o : Option Location) :
      Location.reader.optional.ReadsBack (.opt Location.toJson) o :=
    .optional (fun l _ => l.readsBack) fun _ => nofun
  have described : (Reader.record fields).Accepts (.obj r.entries) (.ok r.reread) := by
    rw [← r.reread.assemble_fields]
    exact Fields.Reads.record <|
      Fields.Reads.map assemble (.field r.line.readsBack)
        |>.seq (.field (place r.destination)) (by simp)
        |>.seq (.accepted r.departureStop.accepts_reread) (by simp)
        |>.seq (.accepted r.arrivalStop.accepts_reread) (by simp)
        |>.seq (.accepted (.list fun s _ => s.accepts_reread)) (by simp)
        |>.seq (.field (.optText r.message)) (by simp)
        |>.seq (.field (.optional (fun j _ => j.readsBack) fun _ => nofun)) (by simp)
        |>.seq (.field (place r.entry)) (by simp)
        |>.seq (.field (place r.exit)) (by simp)
        |>.seq (.field (Path.readsBack fits)) (by simp)
  exact described.refine rfl

end Ride

namespace Leg

/-- The leg with its times read back. -/
def reread : Leg → Leg
  | own l => own l.reread
  | ride r => ride r.reread

/-- The tag of a leg tells which kind it is, and the rest is read as that kind. -/
theorem accepts_reread {l : Leg} (fits : l.path.Fits) : reader.Accepts l.toJson l.reread := by
  cases l with
  | own l =>
    exact .tagged rfl (.map own (OwnLeg.accepts_reread fits)) (by simp [OwnLeg.entries])
  | ride r =>
    exact .tagged rfl (.map ride (Ride.accepts_reread fits)) (by simp [Ride.entries])

end Leg

end Itinerary
