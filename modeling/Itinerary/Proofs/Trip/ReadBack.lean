import Itinerary.Document
import Itinerary.Proofs.Leg.ReadBack
import Itinerary.Proofs.Trip.Agreement

/-!
# Reading trips back

What is written of a trip is read as a trip again, and nothing is lost but what was not written: an
offset in minutes whose number is the word of another offset comes back as that one
(`Trip.accepts_reread`). The trip that is read agrees with the one that was written, so it has the
same ids, changes and duration, and it can be taken if and only if the other one can
(`Trip.ofJson_toJson`).

Three things may stand in the way, and none of them in trips that are made here: a path with more
points than a word counts, a probability that is not finite, since that is written as null
(`Transfer.isFinite_ofProbability`), and a stamp whose text is not read as that stamp
(`Time.Stamp.Legible`).
-/

namespace Itinerary

open Json
open Time (Moment Offset Stamp)

/-! ## What is known of a trip beside its legs -/

/-- A stamp whose text is read as that stamp. -/
def Time.Stamp.Legible (s : Stamp) : Prop := Stamp.lenient? s.text = some s

instance (s : Stamp) : Decidable s.Legible := inferInstanceAs (Decidable (_ = _))

/-- A stamp whose text is legible is read back from it. -/
theorem Time.Stamp.readsBack {s : Stamp} (legible : s.Legible) :
    Stamp.reader.ReadsBack Stamp.toJson s :=
  .narrow Stamp.text (.text s.text) legible

/-- A stamp that is there is read where one may be left out. -/
theorem Time.Stamp.accepts_some {s : Stamp} (legible : s.Legible) :
    Stamp.reader.optional.Accepts s.toJson (some s) := by
  have back : Stamp.reader.optional.ReadsBack (.opt Stamp.toJson) (some s) := by
    refine .optional (fun s' same => ?_) fun _ => nofun
    obtain rfl : s = s' := Option.some.inj same
    exact readsBack legible
  exact back

theorem Passenger.readsBack (p : Passenger) : Passenger.reader.ReadsBack Passenger.toJson p :=
  .variant (by cases p <;> rfl)

theorem Fare.readsBack (f : Fare) : Fare.reader.ReadsBack Fare.toJson f :=
  Fields.Reads.record <|
    Fields.Reads.map Fare.mk (.field (.text f.network))
      |>.seq (.field f.passenger.readsBack) (by simp)
      |>.seq (.field (.text f.currency)) (by simp)
      |>.seq (.field (.int64 f.amount)) (by simp)
      |>.seq (.field (.optText f.name)) (by simp)
      |>.seq (.field (.optText f.unitsName)) (by simp)
      |>.seq (.field (.optText f.units)) (by simp)

theorem Occupancy.readsBack (o : Occupancy) : Occupancy.reader.ReadsBack Occupancy.toJson o :=
  .variant (by cases o <;> rfl)

theorem Capacity.readsBack (c : Capacity) : Capacity.reader.ReadsBack Capacity.toJson c :=
  Fields.Reads.record <|
    Fields.Reads.map Capacity.mk (.field (.optional (fun o _ => o.readsBack) fun _ => nofun))
      |>.seq (.field (.optional (fun o _ => o.readsBack) fun _ => nofun)) (by simp)

namespace Transfer

/-- A transfer is read back if its probability is a number that can be written. -/
theorem readsBack {t : Transfer} (finite : t.probability.isFinite = true) :
    reader.ReadsBack toJson t :=
  Fields.Reads.record <|
    Fields.Reads.map Transfer.mk (.field (.number finite))
      |>.seq (.field (.optional (fun m _ => .uint32 m) fun _ => nofun)) (by simp)

/-- A number between zero and one is finite. -/
theorem isFinite_of_between {p : Float} (number : p.isNaN = false) (above : ¬ p < 0.0)
    (below : ¬ 1.0 < p) : p.isFinite = true := by
  have number : p.toModel.unpack.isNaN = false := number
  have above : ¬ p.toModel.unpack.lt (Float.toModel 0.0).unpack = true :=
    fun less => above (decide_eq_true less)
  have below : ¬ (Float.toModel 1.0).unpack.lt p.toModel.unpack = true :=
    fun less => below (decide_eq_true less)
  show p.toModel.unpack.isFinite = true
  generalize p.toModel.unpack = x at *
  cases x with
  | notANumber => cases number
  | infinity sign =>
    cases sign with
    | positive => exact absurd rfl below
    | negative => exact absurd rfl above
  | zero sign => rfl
  | finite sign mantissa exponent positive => rfl

/-- Every probability that is computed can be written. -/
theorem isFinite_ofProbability (p : Float) (minutes : Option UInt32) :
    (ofProbability p minutes).probability.isFinite = true := by
  show (clamped p).isFinite = true
  unfold clamped
  split
  · rfl
  · rename_i number
    split
    · rfl
    · rename_i above
      split
      · rfl
      · rename_i below
        exact isFinite_of_between (Bool.eq_false_iff.2 number) above below

end Transfer

/-! ## Agreement of what comes back -/

/-- A value that may be missing is related to what becomes of it. -/
theorem rel_map {α : Type} {R : α → α → Prop} {f : α → α} (each : ∀ a, R a (f a)) (o : Option α) :
    Option.Rel R o (o.map f) := by
  cases o with
  | none => exact .none
  | some a => exact .some (each a)

/-- Each item is related to what becomes of it. -/
theorem forall₂_map {α : Type} {R : α → α → Prop} {f : α → α} (each : ∀ a, R a (f a))
    (as : List α) : List.Forall₂ R as (as.map f) :=
  List.forall₂_map_right_iff.2 (List.forall₂_same.2 fun a _ => each a)

/-- A stop agrees with what comes back of it. -/
theorem Stop.agrees_reread (s : Stop) : s.Agrees s.reread where
  location := rfl
  plannedArrival := rel_map Moment.agrees_reread _
  predictedArrival := rel_map Moment.agrees_reread _
  plannedArrivalPosition := rfl
  predictedArrivalPosition := rfl
  arrivalCancelled := rfl
  plannedDeparture := rel_map Moment.agrees_reread _
  predictedDeparture := rel_map Moment.agrees_reread _
  plannedDeparturePosition := rfl
  predictedDeparturePosition := rfl
  departureCancelled := rfl

theorem Leg.agrees_reread (l : Leg) : l.Agrees l.reread := by
  cases l with
  | own l =>
    exact .own ⟨rfl, rfl, l.departure.agrees_reread, rfl, l.arrival.agrees_reread, rfl, rfl⟩
  | ride r =>
    exact .ride ⟨rfl, rfl, r.departureStop.agrees_reread, r.arrivalStop.agrees_reread,
      forall₂_map Stop.agrees_reread _, rfl, rfl, rfl, rfl, rfl⟩

/-! ## Trips -/

namespace Trip

/-- The trip with the times of its legs read back. -/
def reread (t : Trip) : Trip :=
  { t with
    legs := t.legs.map Leg.reread
    nonempty := fun none => t.nonempty (List.map_eq_nil_iff.1 none) }

/-- A trip agrees with what comes back of it, leg by leg. -/
theorem agrees_reread (t : Trip) : t.Agrees t.reread where
  explicitId := rfl
  origin := rfl
  destination := rfl
  legs := forall₂_map Leg.agrees_reread _
  explicitChanges := rfl
  fares := rfl
  capacity := rfl
  created := rfl
  updated := rfl
  detailsLoaded := rfl
  transfers := rfl

/-- The fields of a trip are put together without a violation, whenever that is. -/
theorem assemble_fields (t : Trip) (now : Stamp) :
    assemble now t.explicitId t.origin t.destination t.legs t.explicitChanges t.fares t.capacity
      (some t.created) (some t.updated) t.detailsLoaded t.transfers = .ok t := by
  obtain ⟨explicitId, origin, destination, legs, explicitChanges, fares, capacity, created, updated,
    detailsLoaded, transfers, nonempty⟩ := t
  cases legs with
  | nil => exact absurd rfl nonempty
  | cons leg rest => rfl

variable {t : Trip}

/-- What is written of a trip is read as that trip with its times read back. -/
theorem accepts_reread (now : Stamp) (paths : ∀ l ∈ t.legs, l.path.Fits)
    (finite : ∀ change ∈ t.transfers, change.probability.isFinite = true)
    (created : t.created.Legible) (updated : t.updated.Legible) :
    (reader now).Accepts t.toJson t.reread := by
  have described : (Reader.record (fields now)).Accepts t.toJson (.ok t.reread) := by
    rw [← t.reread.assemble_fields now]
    exact Fields.Reads.record <|
      Fields.Reads.map (assemble now) (.field (.optText t.explicitId))
        |>.seq (.field t.origin.readsBack) (by simp)
        |>.seq (.field t.destination.readsBack) (by simp)
        |>.seq (.accepted (.list fun l mem => Leg.accepts_reread (paths l mem))) (by simp)
        |>.seq (.field (.optional (fun n _ => .uint32 n) fun _ => nofun)) (by simp)
        |>.seq (.field (.list fun f _ => f.readsBack)) (by simp)
        |>.seq (.field (.optional (fun c _ => c.readsBack) fun _ => nofun)) (by simp)
        |>.seq (.accepted (Stamp.accepts_some created)) (by simp)
        |>.seq (.accepted (Stamp.accepts_some updated)) (by simp)
        |>.seq (.field (.bool t.detailsLoaded)) (by simp)
        |>.seq (.field (.list fun change mem => Transfer.readsBack (finite change mem))) (by simp)
  exact described.refine rfl

/-- A trip that is written is read back with the same fields, the times of its legs agreeing in
instant and in the word of the offset, so with the same ids, changes and duration, and it can still
be taken or still not. -/
theorem ofJson_toJson (now : Stamp) (paths : ∀ l ∈ t.legs, l.path.Fits)
    (finite : ∀ change ∈ t.transfers, change.probability.isFinite = true)
    (created : t.created.Legible) (updated : t.updated.Legible) :
    ∃ t' : Trip, Document.ofJson now t.toJson = .ok t' ∧ t.Agrees t' ∧ t'.id = t.id ∧
      (∀ digest, t'.uniqueIdBy digest = t.uniqueIdBy digest) ∧ t'.changes = t.changes ∧
      t'.duration = t.duration ∧ t'.isTravelable = t.isTravelable := by
  have agrees := t.agrees_reread
  exact ⟨t.reread, accepts_reread now paths finite created updated .inMemory, agrees,
    agrees.id.symm, fun digest => (agrees.uniqueIdBy digest).symm, agrees.changes.symm,
    agrees.duration.symm, agrees.isTravelable.symm⟩

/-! ## A bus and a walk

The bus leaves at an offset of as many minutes as the word for the offset of the place has, so that
offset is another one when it is read. Its path has no points, and the walk has no path. -/

def chapel : Location :=
  { Location.ofId .station "chapel" with coord := some ⟨52520000, -13405000⟩ }

def mill : Location :=
  { Location.ofName .station "Mill" with place := some "Town", products := some .empty }

def ramble : Trip where
  explicitId := none
  origin := chapel
  destination := mill
  legs := [
    .ride {
      line := .plain (some "b7") none (some .bus) (some "7")
      destination := some mill
      departureStop :=
        { Stop.bare chapel with plannedDeparture := some ⟨0, .minutes Offset.locationWord⟩ }
      arrivalStop := { Stop.bare mill with predictedArrival := some ⟨600000, .network⟩ }
      intermediateStops := []
      message := none
      journey := some ⟨"j1"⟩
      entry := none
      exit := none
      path := some []
      departs := rfl
      arrives := rfl },
    .own ⟨.walk, mill, ⟨600000, .minutes 60⟩, mill, ⟨660000, .minutes 60⟩, 80, none⟩]
  explicitChanges := some 0
  fares := [⟨"net", .adult, "EUR", 350, none, none, none⟩]
  capacity := some ⟨some .low, none⟩
  created := ⟨1710489600, 0⟩
  updated := ⟨1710489600, 500000000⟩
  detailsLoaded := true
  transfers := [.ofProbability 0.5 (some 3)]
  nonempty := List.cons_ne_nil _ _

/-- The ramble comes back: its bus leaves under the offset of the place, and nothing else is new. -/
theorem ofJson_toJson_ramble :
    ((∀ l ∈ ramble.legs, l.path.Fits) ∧
      (∀ change ∈ ramble.transfers, change.probability.isFinite = true) ∧
      ramble.created.Legible ∧ ramble.updated.Legible) ∧
    ∃ t' : Trip, Document.ofJson ⟨0, 0⟩ ramble.toJson = .ok t' ∧ ramble.Agrees t' ∧
      t'.id = ramble.id := by
  have paths : ∀ l ∈ ramble.legs, l.path.Fits := by
    intro l mem
    simp only [ramble, List.mem_cons, List.not_mem_nil, or_false] at mem
    rcases mem with rfl | rfl
    · rintro points ⟨⟩
      decide
    · exact nofun
  have finite : ∀ change ∈ ramble.transfers, change.probability.isFinite = true := by
    intro change mem
    obtain rfl := List.mem_singleton.1 mem
    exact Transfer.isFinite_ofProbability _ _
  have created : ramble.created.Legible := by decide
  have updated : ramble.updated.Legible := by decide
  obtain ⟨t', read, agrees, id, -⟩ := ofJson_toJson ⟨0, 0⟩ paths finite created updated
  exact ⟨⟨paths, finite, created, updated⟩, t', read, agrees, id⟩

end Trip

end Itinerary
