import Itinerary.Proofs.Decimal.Digits
import Itinerary.Proofs.Text.Separated
import Itinerary.Trip.Identity

/-!
# What a derived id tells

The id that its legs give to a trip is the marks of the legs with bars between them, and in a mark
hyphens stand behind the two ends and behind each planned time. Where no end and no label holds a
hyphen or a bar, the id is taken apart again without doubt, although a time may have a minus sign
and planned times may be missing: what follows the times starts with neither a sign nor a digit. So
trips without ids of their own are the same just when they go, leg by leg, in the same kind of way
between the same places, the rides under the same product and label and by the same planned instants
(`Trip.same_iff_alike`).

What it does not establish: whether a single planned instant is that of the departure or that of the
arrival. A mark leaves out a planned time that is not known and puts nothing in its place. Two rides
of which one is only planned to leave and the other only to arrive, both at the same instant, have
the same mark, and trips of such rides are the same (`Trip.same_of_one_planned_instant`).
-/

namespace Itinerary

open Time (Moment)

/-! ## Planned times -/

/-- Instants with a hyphen behind each. -/
def instantsMark (instants : List Int) : List Char :=
  instants.flatMap fun i => Decimal.signed i ++ ['-']

/-- Each instant stands in a mark with a hyphen behind it. -/
theorem instantsMark_cons_append (i : Int) (instants : List Int) (rest : List Char) :
    instantsMark (i :: instants) ++ rest =
      Decimal.signed i ++ '-' :: (instantsMark instants ++ rest) := by
  simp only [instantsMark, List.flatMap_cons, List.append_assoc, List.cons_append,
    List.nil_append]

/-- The mark of a planned time is that of one instant, or of none. -/
theorem plannedMark_eq (m : Option Moment) :
    plannedMark m = instantsMark (m.toList.map Moment.ms) := by
  cases m with
  | none => rfl
  | some m => simp only [plannedMark, instantsMark, Option.toList_some, List.map_singleton,
      List.flatMap_singleton]

/-- The instants end where something stands that no number starts with. -/
theorem instantsMark_append_inj {is js : List Int} {c d : Char} {x y : List Char}
    (hc : ¬ (c = '-' ∨ c.isDigit)) (hd : ¬ (d = '-' ∨ d.isDigit))
    (same : instantsMark is ++ c :: x = instantsMark js ++ d :: y) : is = js ∧ c = d ∧ x = y := by
  induction is generalizing js with
  | nil =>
    cases js with
    | nil =>
      obtain ⟨first, rest⟩ := List.cons.inj same
      exact ⟨rfl, first, rest⟩
    | cons j js =>
      -- A further instant would start with a sign or a digit, and `c` is neither.
      obtain ⟨e, es, number, numeral⟩ := Decimal.signed_eq_cons j
      rw [instantsMark_cons_append, number] at same
      obtain ⟨rfl, -⟩ := List.cons.inj same
      exact absurd numeral hc
  | cons i is ih =>
    cases js with
    | nil =>
      obtain ⟨e, es, number, numeral⟩ := Decimal.signed_eq_cons i
      rw [instantsMark_cons_append, number] at same
      obtain ⟨rfl, -⟩ := List.cons.inj same
      exact absurd numeral hd
    | cons j js =>
      rw [instantsMark_cons_append, instantsMark_cons_append] at same
      obtain ⟨rfl, rest⟩ := Decimal.signed_append_inj same
      obtain ⟨rfl, first, rest⟩ := ih rest
      exact ⟨rfl, first, rest⟩

/-- Two times of which either may be missing, written without a gap: what is written leaves open
which of the two a single one is, and nothing else. -/
theorem toList_append_eq_iff {α : Type} {d a d' a' : Option α} :
    d.toList ++ a.toList = d'.toList ++ a'.toList ↔
      (d = d' ∧ a = a') ∨ (∃ x, d = some x ∧ a = none ∧ d' = none ∧ a' = some x) ∨
        ∃ x, d' = some x ∧ a' = none ∧ d = none ∧ a = some x := by
  cases d <;> cases a <;> cases d' <;> cases a' <;> simp
  -- Left over: one time each, on different sides.
  exact eq_comm

theorem bar_not_mem_instantsMark (instants : List Int) : '|' ∉ instantsMark instants := by
  intro mem
  obtain ⟨i, -, here⟩ := List.mem_flatMap.1 mem
  rcases List.mem_append.1 here with number | hyphen
  · exact absurd (Decimal.mem_signed number) (by decide)
  · exact absurd (List.mem_singleton.1 hyphen) (by decide)

namespace Ride

/-- The instant at which a ride is planned to leave, if one is known. -/
def plannedDeparture (r : Ride) : Option Int := r.departureStop.plannedDeparture.map Moment.ms

/-- The instant at which a ride is planned to arrive, if one is known. -/
def plannedArrival (r : Ride) : Option Int := r.arrivalStop.plannedArrival.map Moment.ms

/-- Two rides with one planned instant each, which is the same: the first is planned to leave then,
the second to arrive then. -/
def Crossed (a b : Ride) : Prop :=
  ∃ ms, a.plannedDeparture = some ms ∧ a.plannedArrival = none ∧
    b.plannedDeparture = none ∧ b.plannedArrival = some ms

/-- Two rides that are planned to leave at the same instant and to arrive at the same instant, as far
as that is known of each; or the one planned instant of each is the same instant, of the departure
here and of the arrival there. -/
def SamePlan (a b : Ride) : Prop :=
  (a.plannedDeparture = b.plannedDeparture ∧ a.plannedArrival = b.plannedArrival) ∨
    Crossed a b ∨ Crossed b a

/-- The planned instants, that of the departure first. -/
def plan (r : Ride) : List Int := r.plannedDeparture.toList ++ r.plannedArrival.toList

/-- Two planned times without a word which is which: rides have the same ones just if `SamePlan`
holds. -/
theorem plan_eq_iff {a b : Ride} : a.plan = b.plan ↔ SamePlan a b :=
  toList_append_eq_iff

/-- Two rides between the same places and by the same planned instants, under the same product and
label. -/
structure Alike (a b : Ride) : Prop where
  start : a.departureStop.location.identity = b.departureStop.location.identity
  finish : a.arrivalStop.location.identity = b.arrivalStop.location.identity
  plan : SamePlan a b
  product : a.line.productCode = b.line.productCode
  label : a.line.label.getD "" = b.line.label.getD ""

end Ride

/-! ## One leg -/

/-- A text without hyphens and without bars. -/
def Plain (s : String) : Prop := '-' ∉ s.toList ∧ '|' ∉ s.toList

instance (s : String) : Decidable (Plain s) :=
  inferInstanceAs (Decidable ('-' ∉ s.toList ∧ '|' ∉ s.toList))

namespace Leg

/-- The label of the line of a ride, if it has one. -/
def label? (l : Leg) : Option String := l.ride?.bind fun r => r.line.label

/-- A leg with a mark that can be taken apart: neither a hyphen nor a bar is in what its ends are
recognised by or in the label of its line. -/
structure Separable (l : Leg) : Prop where
  start : Plain l.start.identity
  finish : Plain l.finish.identity
  label : ∀ label ∈ l.label?, Plain label

instance (l : Leg) : Decidable l.Separable :=
  decidable_of_iff (Plain l.start.identity ∧ Plain l.finish.identity ∧
      ∀ label ∈ l.label?, Plain label)
    ⟨fun ⟨start, finish, label⟩ => ⟨start, finish, label⟩,
      fun h => ⟨h.start, h.finish, h.label⟩⟩

/-- Two legs of the same kind that are alike in what the id of a trip looks at. -/
inductive Alike : Leg → Leg → Prop
  | own {a b : OwnLeg} (start : a.start.identity = b.start.identity)
    (finish : a.finish.identity = b.finish.identity) : Alike (.own a) (.own b)
  | ride {a b : Ride} (alike : a.Alike b) : Alike (.ride a) (.ride b)

/-- The planned instants that are known of a leg. -/
def plan : Leg → List Int
  | own _ => []
  | ride r => r.plan

/-- The letter that stands behind the times in a mark. -/
def letter : Leg → Char
  | own _ => 'i'
  | ride r => r.line.productCode

/-- What stands behind that letter. -/
def ending : Leg → List Char
  | own _ => "ndividual".toList
  | ride r => (r.line.label.getD "").toList

/-- A mark with the rest of it behind each hyphen. -/
theorem mark_eq (l : Leg) :
    l.mark = l.start.identity.toList ++
      '-' :: (l.finish.identity.toList ++ '-' :: (instantsMark l.plan ++ l.letter :: l.ending)) := by
  cases l with
  | own l => simp only [mark, List.append_assoc, List.cons_append]; rfl
  | ride r =>
    have times : plannedMark r.departureStop.plannedDeparture ++
        plannedMark r.arrivalStop.plannedArrival = instantsMark r.plan := by
      rw [plannedMark_eq, plannedMark_eq, Ride.plan, instantsMark, instantsMark, instantsMark,
        List.flatMap_append, Ride.plannedDeparture, Ride.plannedArrival, Option.toList_map,
        Option.toList_map]
    simp only [mark, times, List.append_assoc, List.cons_append]
    rfl

/-- All letters that a mark may have. -/
def letters : List Char := 'i' :: Product.unknownCode :: Product.all.map Product.code

/-- The letter of a ride is that of a product, or the one for a product that is not known. -/
theorem productCode_mem (r : Ride) :
    r.line.productCode ∈ Product.unknownCode :: Product.all.map Product.code := by
  show Product.codeOf r.line.product ∈ _
  cases r.line.product with
  | none => exact List.mem_cons_self
  | some p => exact List.mem_cons_of_mem _ (List.mem_map.2 ⟨p, p.mem_all, rfl⟩)

/-- The letter of a leg is that of a ride, or the one for a traveller's own leg. -/
theorem letter_mem (l : Leg) : l.letter ∈ letters := by
  cases l with
  | own l => exact List.mem_cons_self
  | ride r => exact List.mem_cons_of_mem _ (productCode_mem r)

/-- No letter starts a number. -/
theorem letter_not_numeral (l : Leg) : ¬ (l.letter = '-' ∨ l.letter.isDigit) := by
  have all : letters.all (fun c => ¬ (c = '-' ∨ c.isDigit)) = true := by decide
  exact of_decide_eq_true (List.all_eq_true.1 all l.letter l.letter_mem)

/-- No ride has the letter of a traveller's own leg. -/
theorem productCode_ne (r : Ride) : r.line.productCode ≠ 'i' := by
  have absent : 'i' ∉ Product.unknownCode :: Product.all.map Product.code := by decide
  exact fun same => absent (same ▸ productCode_mem r)

/-- Legs of the same kind are told by the letter, and their parts by what stands around it. -/
theorem alike_iff {a b : Leg} :
    Alike a b ↔ a.start.identity = b.start.identity ∧ a.finish.identity = b.finish.identity ∧
      a.plan = b.plan ∧ a.letter = b.letter ∧ a.ending = b.ending := by
  constructor
  · rintro (⟨start, finish⟩ | ⟨start, finish, plan, product, label⟩)
    · exact ⟨start, finish, rfl, rfl, rfl⟩
    · exact ⟨start, finish, Ride.plan_eq_iff.2 plan, product, congrArg String.toList label⟩
  · rintro ⟨start, finish, plan, letter, ending⟩
    cases a with
    | own a =>
      cases b with
      | own b => exact .own start finish
      | ride b => exact absurd letter.symm (productCode_ne b)
    | ride a =>
      cases b with
      | own b => exact absurd letter (productCode_ne a)
      | ride b =>
        exact .ride ⟨start, finish, Ride.plan_eq_iff.1 plan, letter, String.toList_inj.1 ending⟩

/-- What the id looks at decides the mark of a leg, whatever the texts in it hold. -/
theorem mark_eq_of_alike {a b : Leg} (alike : Alike a b) : a.mark = b.mark := by
  obtain ⟨start, finish, plan, letter, ending⟩ := alike_iff.1 alike
  rw [mark_eq, mark_eq, start, finish, plan, letter, ending]

/-- A mark is known by its five parts, and they by it. -/
theorem mark_eq_iff {a b : Leg} (ha : a.Separable) (hb : b.Separable) :
    a.mark = b.mark ↔ Alike a b := by
  constructor
  · intro same
    rw [mark_eq, mark_eq] at same
    obtain ⟨start, same⟩ := Text.append_cons_inj ha.start.1 hb.start.1 same
    obtain ⟨finish, same⟩ := Text.append_cons_inj ha.finish.1 hb.finish.1 same
    obtain ⟨plan, letter, ending⟩ :=
      instantsMark_append_inj a.letter_not_numeral b.letter_not_numeral same
    exact alike_iff.2
      ⟨String.toList_inj.1 start, String.toList_inj.1 finish, plan, letter, ending⟩
  · exact mark_eq_of_alike

/-- The end of a mark is a word of the program or the label of a line, which holds no bar. -/
theorem bar_not_mem_ending {l : Leg} (h : l.Separable) : '|' ∉ l.ending := by
  cases l with
  | own l =>
    show '|' ∉ "ndividual".toList
    decide
  | ride r =>
    show '|' ∉ (r.line.label.getD "").toList
    cases given : r.line.label with
    | none => exact List.not_mem_nil
    | some label => exact (h.label label given).2

/-- Nothing in the mark of such a leg is a bar, so a bar ends the mark. -/
theorem bar_not_mem_mark {l : Leg} (h : l.Separable) : '|' ∉ l.mark := by
  have absent : '|' ∉ letters := by decide
  have letter : '|' ≠ l.letter := fun same => absent (same ▸ l.letter_mem)
  have times := bar_not_mem_instantsMark l.plan
  have ending := bar_not_mem_ending h
  simp [mark_eq, h.start.2, h.finish.2, times, letter, ending]

end Leg

/-! ## Whole trips -/

namespace Trip

theorem id_of_explicitId_none {t : Trip} (h : t.explicitId = none) : t.id = t.derivedId := by
  rw [id, h, Option.getD_none]

/-- Two trips without ids of their own are the same just when they have the same number of legs and
these are alike one by one. -/
theorem same_iff_alike {a b : Trip} (own : a.explicitId = none) (own' : b.explicitId = none)
    (separable : ∀ l ∈ a.legs, l.Separable) (separable' : ∀ l ∈ b.legs, l.Separable) :
    a.same b = true ↔ List.Forall₂ Leg.Alike a.legs b.legs := by
  rw [same, decide_eq_true_iff, id_of_explicitId_none own, id_of_explicitId_none own', derivedId,
    derivedId, String.ofList_inj]
  exact Text.intercalate_map_eq_iff a.nonempty b.nonempty
    (fun l mem => Leg.bar_not_mem_mark (separable l mem))
    (fun l mem => Leg.bar_not_mem_mark (separable' l mem))
    fun l mem m mem' => Leg.mark_eq_iff (separable l mem) (separable' m mem')

/-! ## Half a plan

A walk to a stop and a bus from there. One bus is planned to leave half a minute before the epoch and
is predicted to arrive; the other is predicted to leave and planned to arrive at that instant. -/

def hotel : Location := .atPoint ⟨52500000, 13400000⟩

def quay : Location := .stationOf "quay" "Quay"

def square : Location := .stationOf "square" "Square"

/-- The walk to the quay and the bus from there, with a departure and an arrival. -/
def busTrip (departureStop arrivalStop : Stop) (departs : departureStop.hasDeparture = true)
    (arrives : arrivalStop.hasArrival = true) : Trip :=
  .ofLegs ⟨0, 0⟩ none hotel square
    [.own ⟨.walk, hotel, ⟨-900000, .network⟩, quay, ⟨-600000, .network⟩, 350, none⟩,
    .ride (.ofStops (.plain none none (some .bus) (some "7")) none departureStop arrivalStop
      departs arrives)]
    (List.cons_ne_nil _ _)

/-- The bus that is planned to leave. -/
def plannedToLeave : Trip :=
  busTrip { Stop.bare quay with plannedDeparture := some ⟨-30000, .network⟩ }
    { Stop.bare square with predictedArrival := some ⟨570000, .network⟩ } rfl rfl

/-- The bus that is planned to arrive. -/
def plannedToArrive : Trip :=
  busTrip { Stop.bare quay with predictedDeparture := some ⟨-540000, .network⟩ }
    { Stop.bare square with plannedArrival := some ⟨-30000, .network⟩ } rfl rfl

/-- That trips without ids of their own are the same does not tell when their rides are planned to
leave, nor when they are planned to arrive. -/
theorem same_of_one_planned_instant :
    plannedToLeave.explicitId = none ∧ plannedToArrive.explicitId = none ∧
      (∀ l ∈ plannedToLeave.legs, l.Separable) ∧ (∀ l ∈ plannedToArrive.legs, l.Separable) ∧
      plannedToLeave.same plannedToArrive = true ∧
      plannedToLeave.rides.map Ride.plannedDeparture ≠
        plannedToArrive.rides.map Ride.plannedDeparture ∧
      plannedToLeave.rides.map Ride.plannedArrival ≠
        plannedToArrive.rides.map Ride.plannedArrival := by
  refine ⟨rfl, rfl, ?_, ?_, ?_, ?_, ?_⟩ <;> decide

/-- Two plans with one instant each, the departure here and the arrival there: the legs are alike.
-/
theorem same_iff_alike_half_planned :
    plannedToLeave.explicitId = none ∧ plannedToArrive.explicitId = none ∧
      (∀ l ∈ plannedToLeave.legs, l.Separable) ∧ (∀ l ∈ plannedToArrive.legs, l.Separable) ∧
      plannedToLeave.same plannedToArrive = true ∧
      List.Forall₂ Leg.Alike plannedToLeave.legs plannedToArrive.legs := by
  have separable : ∀ l ∈ plannedToLeave.legs, l.Separable := by decide
  have separable' : ∀ l ∈ plannedToArrive.legs, l.Separable := by decide
  have same : plannedToLeave.same plannedToArrive = true := by decide
  exact ⟨rfl, rfl, separable, separable', same,
    (same_iff_alike rfl rfl separable separable').1 same⟩

end Trip

end Itinerary
