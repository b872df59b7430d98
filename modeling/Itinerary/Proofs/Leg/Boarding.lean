import Itinerary.Proofs.Leg.StopOrder

/-!
# Where travellers really board and leave

A backend may tell where travellers board or leave, and it may call that place otherwise than the
ride does. So its record is looked for among a stop and the stops on the way: the first place with
its id, and only if none has it the first one with its name and town (`Ride.RecordedAs`). There is
one record at most, so what `Ride.reconciled` gives is settled by that (`Ride.reconciled_eq_iff`).

A place where travellers board is looked for a second time, from the last stop on, if nothing is
told about leaving. Since the stops on the way were looked at before, nothing but the last stop can
come of it (`Ride.BoardsAtEnd`).

To reconcile a place that was reconciled changes nothing, as long as places with one id are also
called alike: a record found by its name may carry an id that an earlier place has as well.
-/

namespace Itinerary

/-! ## First items -/

section First

variable {α : Type} {p : α → Bool} {q q' : α → Prop} {items : List α} {x y : α}

/-- An item of a list is the first one with a property. -/
def IsFirst (q : α → Prop) (items : List α) (x : α) : Prop :=
  q x ∧ ∃ before after, items = before ++ x :: after ∧ ∀ y ∈ before, ¬ q y

/-- A search finds the first item with a property. -/
theorem find?_eq_some_iff_isFirst (same : ∀ x, p x = true ↔ q x) :
    items.find? p = some x ↔ IsFirst q items x := by
  simp only [List.find?_eq_some_iff_append, IsFirst, ← same, Bool.not_eq_true', Bool.not_eq_true]

/-- A search finds nothing just if nothing has the property. -/
theorem find?_eq_none_iff_forall (same : ∀ x, p x = true ↔ q x) :
    items.find? p = none ↔ ∀ x ∈ items, ¬ q x := by
  simp only [List.find?_eq_none, same]

namespace IsFirst

theorem mem (first : IsFirst q items x) : x ∈ items := by
  obtain ⟨-, before, after, rfl, -⟩ := first
  exact List.mem_append_right _ List.mem_cons_self

/-- The first item with a property is also the first one with a property that is rarer, if it has
that one. -/
theorem of_imp (first : IsFirst q items x) (here : q' x) (rarer : ∀ y ∈ items, q' y → q y) :
    IsFirst q' items x := by
  obtain ⟨-, before, after, rfl, none⟩ := first
  refine ⟨here, before, after, rfl, fun y mem holds => none y mem (rarer y ?_ holds)⟩
  exact List.mem_append_left _ mem

/-- Only one item is the first, for it is what a search finds. -/
theorem unique [DecidablePred q] (first : IsFirst q items x) (other : IsFirst q items y) :
    x = y := by
  have same (x : α) : decide (q x) = true ↔ q x := decide_eq_true_iff
  have found := (find?_eq_some_iff_isFirst same).2 first
  have found' := (find?_eq_some_iff_isFirst same).2 other
  exact Option.some.inj (found.symm.trans found')

end IsFirst

end First

namespace Ride

open Location

variable {r : Ride} {candidate stop l l' : Location} {places : List Location}
  {exit : Option Location}

/-! ## Records -/

/-- The places among which a record is looked for. -/
def placesFrom (r : Ride) (stop : Location) : List Location :=
  stop :: r.intermediateStops.map Stop.location

/-- What some places make of a place that was told: the record of its id, else that of its name and
town, else the place as it was told. -/
inductive RecordedAs (places : List Location) (candidate : Location) : Location → Prop
  | byId {l : Location} (first : IsFirst (·.SharesId candidate) places l) :
    RecordedAs places candidate l
  | byName {l : Location} (strange : ∀ p ∈ places, ¬ p.SharesId candidate)
    (first : IsFirst (·.SharesName candidate) places l) : RecordedAs places candidate l
  | unrecorded (strange : ∀ p ∈ places, ¬ p.SharesId candidate)
    (unnamed : ∀ p ∈ places, ¬ p.SharesName candidate) : RecordedAs places candidate candidate

/-- The three outcomes of a search. -/
theorem recordOf?_cases (r : Ride) (candidate stop : Location) :
    (∃ l, r.recordOf? candidate stop = some l ∧
        IsFirst (·.SharesId candidate) (r.placesFrom stop) l) ∨
      (∃ l, r.recordOf? candidate stop = some l ∧
        (∀ p ∈ r.placesFrom stop, ¬ p.SharesId candidate) ∧
        IsFirst (·.SharesName candidate) (r.placesFrom stop) l) ∨
      (r.recordOf? candidate stop = none ∧ (∀ p ∈ r.placesFrom stop, ¬ p.SharesId candidate) ∧
        ∀ p ∈ r.placesFrom stop, ¬ p.SharesName candidate) := by
  have search : r.recordOf? candidate stop =
      ((r.placesFrom stop).find? (·.sameId candidate) <|>
        (r.placesFrom stop).find? (·.sameNameAndPlace candidate)) := rfl
  rw [search]
  cases known : (r.placesFrom stop).find? (·.sameId candidate) with
  | some l => exact .inl ⟨l, rfl, (find?_eq_some_iff_isFirst fun _ => sameId_iff).1 known⟩
  | none =>
    have strange := (find?_eq_none_iff_forall fun _ => sameId_iff).1 known
    cases named : (r.placesFrom stop).find? (·.sameNameAndPlace candidate) with
    | some l =>
      have first := (find?_eq_some_iff_isFirst fun _ => sameNameAndPlace_iff).1 named
      exact .inr (.inl ⟨l, rfl, strange, first⟩)
    | none =>
      have unnamed := (find?_eq_none_iff_forall fun _ => sameNameAndPlace_iff).1 named
      exact .inr (.inr ⟨rfl, strange, unnamed⟩)

/-- What a ride makes of a candidate is what its places record. -/
theorem recordedAs_reconciled (r : Ride) (candidate stop : Location) :
    RecordedAs (r.placesFrom stop) candidate (r.reconciled candidate stop) := by
  rw [reconciled]
  rcases r.recordOf?_cases candidate stop with ⟨l, found, first⟩ | ⟨l, found, strange, first⟩ |
    ⟨found, strange, unnamed⟩
  · rw [found]
    exact .byId first
  · rw [found]
    exact .byName strange first
  · rw [found]
    exact .unrecorded strange unnamed

namespace RecordedAs

/-- There are no two records of a place. -/
theorem unique (one : RecordedAs places candidate l) (other : RecordedAs places candidate l') :
    l = l' := by
  cases one with
  | byId first =>
    cases other with
    | byId first' => exact first.unique first'
    | byName strange | unrecorded strange => exact absurd first.1 (strange _ first.mem)
  | byName strange first =>
    cases other with
    | byId first' => exact absurd first'.1 (strange _ first'.mem)
    | byName _ first' => exact first.unique first'
    | unrecorded _ unnamed => exact absurd first.1 (unnamed _ first.mem)
  | unrecorded strange unnamed =>
    cases other with
    | byId first' => exact absurd first'.1 (strange _ first'.mem)
    | byName _ first' => exact absurd first'.1 (unnamed _ first'.mem)
    | unrecorded => rfl

end RecordedAs

/-- The outcome is determined: `RecordedAs` holds of one location only. -/
theorem reconciled_eq_iff :
    r.reconciled candidate stop = l ↔ RecordedAs (r.placesFrom stop) candidate l := by
  constructor
  · rintro rfl
    exact r.recordedAs_reconciled candidate stop
  · exact (r.recordedAs_reconciled candidate stop).unique

/-! ## Reconciling again -/

/-- Places of which those with one id are called alike. -/
def CalledAlike (places : List Location) : Prop :=
  ∀ a ∈ places, ∀ b ∈ places, a.SharesId b → a.name = b.name ∧ a.place = b.place

instance (places : List Location) : Decidable (CalledAlike places) :=
  inferInstanceAs (Decidable (∀ a ∈ places, ∀ b ∈ places,
    a.SharesId b → a.name = b.name ∧ a.place = b.place))

/-- A record is its own record. -/
theorem RecordedAs.again (alike : CalledAlike places) (recorded : RecordedAs places candidate l) :
    RecordedAs places l l := by
  cases recorded with
  | byId first =>
    have own := first.1.trans first.1.symm
    exact .byId (first.of_imp own fun y _ same => same.trans first.1)
  | byName strange first =>
    have called : l.SharesName candidate := first.1
    have own : l.SharesName l := called.trans called.symm
    -- The record may have an id of its own, and then it is looked for by that.
    by_cases known : ∃ p ∈ places, p.SharesId l
    · obtain ⟨p, -, same⟩ := known
      refine .byId (first.of_imp (same.symm.trans same) fun y mem same => ?_)
      obtain ⟨sameName, samePlace⟩ := alike y mem l first.mem same
      obtain ⟨name, itsName, known, place⟩ := called
      exact ⟨name, sameName.trans itsName, known, samePlace.trans place⟩
    · have byItsName : IsFirst (·.SharesName l) places l :=
        first.of_imp own fun y _ same => same.trans called
      exact .byName (fun p mem same => known ⟨p, mem, same⟩) byItsName
  | unrecorded strange unnamed => exact .unrecorded strange unnamed

/-! ## Boarding -/

/-- A place of boarding that is the last stop: nothing is told about leaving, and it is none of the
stops up to there. -/
structure BoardsAtEnd (r : Ride) (exit : Option Location) (candidate : Location) : Prop where
  silent : exit = none
  unmet : ∀ p ∈ r.placesFrom r.departureStop.location, ¬ p.Resembles candidate
  last : r.arrivalStop.location.Resembles candidate

instance (r : Ride) (exit : Option Location) (candidate : Location) :
    Decidable (r.BoardsAtEnd exit candidate) :=
  decidable_of_iff (exit = none ∧
      (∀ p ∈ r.placesFrom r.departureStop.location, ¬ p.Resembles candidate) ∧
      r.arrivalStop.location.Resembles candidate)
    ⟨fun ⟨silent, unmet, last⟩ => ⟨silent, unmet, last⟩, fun h => ⟨h.silent, h.unmet, h.last⟩⟩

/-- Nothing is found on the ride just if no place of it resembles the candidate. -/
theorem recordOf?_eq_none_iff :
    r.recordOf? candidate stop = none ↔ ∀ p ∈ r.placesFrom stop, ¬ p.Resembles candidate := by
  rcases r.recordOf?_cases candidate stop with ⟨l, found, first⟩ | ⟨l, found, -, first⟩ |
    ⟨found, strange, unnamed⟩
  · rw [found]
    exact iff_of_false nofun fun unmet => unmet l first.mem (.inl first.1)
  · rw [found]
    exact iff_of_false nofun fun unmet => unmet l first.mem (.inr first.1)
  · refine iff_of_true found fun p mem resembles => ?_
    rcases resembles with same | same
    · exact strange p mem same
    · exact unnamed p mem same

/-- If no stop on the way resembles a place, only the stop itself can be its record. -/
theorem recordOf?_eq_some_self (unmet : ∀ p ∈ r.intermediateStops.map Stop.location,
    ¬ p.Resembles candidate) (here : stop.Resembles candidate) :
    r.recordOf? candidate stop = some stop := by
  have only : ∀ p ∈ r.placesFrom stop, p.Resembles candidate → p = stop := by
    intro p mem resembles
    rcases List.mem_cons.1 mem with itself | onTheWay
    · exact itself
    · exact absurd resembles (unmet p onTheWay)
  rcases r.recordOf?_cases candidate stop with ⟨l, found, first⟩ | ⟨l, found, -, first⟩ |
    ⟨found, -, -⟩
  · rw [found, only l first.mem (.inl first.1)]
  · rw [found, only l first.mem (.inr first.1)]
  · exact absurd here (recordOf?_eq_none_iff.1 found stop List.mem_cons_self)

/-- The second search for a place of boarding finds the last stop or nothing. -/
theorem boarding_eq (r : Ride) (exit : Option Location) (candidate : Location) :
    (r.recordOf? candidate r.departureStop.location <|>
        if exit.isNone then r.recordOf? candidate r.arrivalStop.location else none).getD
          candidate =
      if r.BoardsAtEnd exit candidate then r.arrivalStop.location
      else r.reconciled candidate r.departureStop.location := by
  cases found : r.recordOf? candidate r.departureStop.location with
  | some l =>
    have met : ¬ r.BoardsAtEnd exit candidate := fun atEnd =>
      nomatch found.symm.trans (recordOf?_eq_none_iff.2 atEnd.unmet)
    rw [if_neg met, reconciled, found]
    rfl
  | none =>
    -- Only without a record from the start of the ride on is there a second search.
    have unmet := recordOf?_eq_none_iff.1 found
    have asTold : r.reconciled candidate r.departureStop.location = candidate := by
      rw [reconciled, found]
      rfl
    rw [asTold]
    cases exit with
    | some left =>
      rw [if_neg fun atEnd : r.BoardsAtEnd (some left) candidate => nomatch atEnd.silent]
      rfl
    | none =>
      have onTheWay := (List.forall_mem_cons.1 unmet).2
      by_cases last : r.arrivalStop.location.Resembles candidate
      · have atEnd : r.BoardsAtEnd none candidate := ⟨rfl, unmet, last⟩
        rw [if_pos atEnd, recordOf?_eq_some_self onTheWay last]
        rfl
      · have nowhere : r.recordOf? candidate r.arrivalStop.location = none :=
          recordOf?_eq_none_iff.2 (List.forall_mem_cons.2 ⟨last, onTheWay⟩)
        rw [if_neg fun atEnd : r.BoardsAtEnd none candidate => last atEnd.last, nowhere]
        rfl

/-- A place is reconciled with the first of a stop and the stops on the way that has its id, else
with the first that has its name and town, and else it stays as it was told. Where travellers leave
is reconciled from the last stop on and where they board from the first one on, unless they board at
the last stop; what is not told is not known, and nothing else about the ride changes. What was
reconciled stays as it is when it is reconciled again, if places with one id are called alike. -/
theorem boarding_reconciled (r : Ride) (candidate stop : Location) (entry exit : Option Location) :
    (∀ l, r.reconciled candidate stop = l ↔ RecordedAs (r.placesFrom stop) candidate l) ∧
      r.withBoarding entry exit =
        { r with
          entry := entry.map fun told =>
            if r.BoardsAtEnd exit told then r.arrivalStop.location
            else r.reconciled told r.departureStop.location
          exit := exit.map fun told => r.reconciled told r.arrivalStop.location } ∧
      (CalledAlike (r.placesFrom stop) →
        r.reconciled (r.reconciled candidate stop) stop = r.reconciled candidate stop) := by
  refine ⟨fun l => reconciled_eq_iff, ?_, fun alike => ?_⟩
  · simp only [withBoarding, boarding_eq]
  · exact reconciled_eq_iff.2 ((r.recordedAs_reconciled candidate stop).again alike)

/-- The id of a later stop counts for more than the name of an earlier one. -/
theorem boarding_reconciled_funicular :
    CalledAlike (funicular.placesFrom (stationOf "valley" "Valley")) ∧
      funicular.reconciled (stationOf "chapel" "Halfway") (stationOf "valley" "Valley") =
        stationOf "chapel" "Chapel" ∧
      funicular.reconciled (funicular.reconciled (stationOf "chapel" "Halfway")
        (stationOf "valley" "Valley")) (stationOf "valley" "Valley") =
        stationOf "chapel" "Chapel" ∧
      (funicular.withBoarding (some (stationOf "top" "Summit")) none).entry =
        some (stationOf "summit" "Summit") := by
  obtain ⟨recorded, boarded, again⟩ := boarding_reconciled funicular
    (stationOf "chapel" "Halfway") (stationOf "valley" "Valley")
    (some (stationOf "top" "Summit")) none
  have alike : CalledAlike (funicular.placesFrom (stationOf "valley" "Valley")) := by decide
  have first : IsFirst (·.SharesId (stationOf "chapel" "Halfway"))
      (funicular.placesFrom (stationOf "valley" "Valley")) (stationOf "chapel" "Chapel") :=
    ⟨by decide, [stationOf "valley" "Valley", stationOf "halfway" "Halfway"], [], rfl, by decide⟩
  have chapel := (recorded _).2 (.byId first)
  refine ⟨alike, chapel, (again alike).trans chapel, ?_⟩
  rw [boarded]
  decide

end Ride

end Itinerary
