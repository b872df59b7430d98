import Itinerary.Proofs.Place.Likeness
import Itinerary.Proofs.Timetable.Connection

/-!
# Asking again with the places of the answer

An answer names the places that the places of a query stand for. A place that was found by its name
is looked up in another way when it is asked for itself: by its id if it has one, as its coordinate
if it has one of these, and by its own name and town otherwise. All three ways lead back to it
(`Timetable.standsFor_self`). The id does because no other place has it, and that is the one premise.
The name does because going by a name is transitive (`Location.GoesBy.trans`): whatever goes by the
name of the place that was found goes by the name that was asked for, and only one place did.

So a query with the places of its answer is answered as before (`Timetable.trips_again`).
-/

namespace Itinerary

open Time (Stamp)

/-! ## Names -/

namespace Location

variable {a b question : Location}

/-- A place with a name goes by its own name. -/
theorem goesBy_self (named : a.name ≠ none) : a.GoesBy a := by
  obtain ⟨name, given⟩ := Option.ne_none_iff_exists'.1 named
  exact ⟨⟨name, given, name, given, decide_eq_true rfl⟩, fun _ place => place⟩

/-- What goes by the name of a place goes by every name that this place goes by. -/
theorem GoesBy.trans (first : a.GoesBy b) (second : b.GoesBy question) : a.GoesBy question where
  name := by
    obtain ⟨middle, given, own, known, alike⟩ := first.name
    obtain ⟨name, asked, middle', given', alike'⟩ := second.name
    obtain rfl := Option.some.inj (given.symm.trans given')
    have same := (of_decide_eq_true alike).trans (of_decide_eq_true alike')
    exact ⟨name, asked, own, known, decide_eq_true same⟩
  place := fun place asked => first.place place (second.place place asked)

theorem GoesBy.name_ne_none (goes : a.GoesBy question) : a.name ≠ none := by
  obtain ⟨-, -, own, known, -⟩ := goes.name
  exact Option.ne_none_iff_exists'.2 ⟨own, known⟩

end Location

namespace Timetable

variable {t : Timetable} {question l origin destination : Location} {via : Option Location}
  {query : Query} {options : Options} {now : Stamp}

/-! ## Places that stand for themselves -/

/-- Places of the timetable that share their id are the same place. -/
def IdsTell (t : Timetable) : Prop :=
  ∀ a ∈ t.locations, ∀ b ∈ t.locations, a.SharesId b → a = b

/-- A place of the timetable that no other one goes by the name of, or that has an id or a
coordinate, stands for itself. -/
theorem standsFor_self_of_mem (ids : t.IdsTell) (mem : l ∈ t.locations)
    (only : l.Vague → t.matching l = [l]) : t.StandsFor l l := by
  cases given : l.properId with
  | some id =>
    obtain ⟨proper, own⟩ := Location.properId_eq_some_iff.1 given
    refine .id given ?_
    cases first : t.locations.find? (·.id = some id) with
    | none => exact absurd own (find?_id_eq_none_iff.1 first l mem)
    | some found =>
      have same : found.SharesId l := ⟨id, proper, id_of_find?_id first, own⟩
      exact congrArg some (ids found (List.mem_of_find?_eq_some first) l mem same)
  | none =>
    by_cases coord : l.coord = none
    · exact .name ⟨given, coord⟩ (only ⟨given, coord⟩)
    · exact .coord given coord

/-- The only place that goes by a name is the only one that goes by its own. -/
theorem matching_self (only : t.matching question = [l]) : t.matching l = [l] := by
  have goes : l.GoesBy question := of_decide_eq_true
    (List.mem_filter.1 (only ▸ List.mem_singleton_self l : l ∈ t.matching question)).2
  have narrower (m : Location) : decide (m.GoesBy l) =
      (decide (m.GoesBy l) && decide (m.GoesBy question)) := by
    rw [Bool.eq_iff_iff, Bool.and_eq_true, decide_eq_true_iff, decide_eq_true_iff]
    exact ⟨fun own => ⟨own, own.trans goes⟩, And.left⟩
  have self : l.GoesBy l := Location.goesBy_self goes.name_ne_none
  calc t.matching l
      = (t.matching question).filter fun m => m.GoesBy l := by
        rw [matching, matching, List.filter_filter]
        exact List.filter_congr fun m _ => narrower m
    _ = [l] := by
      rw [only]
      exact List.filter_cons_of_pos (decide_eq_true self)

/-- What a place stands for stands for itself. -/
theorem standsFor_self (ids : t.IdsTell) (h : t.StandsFor question l) : t.StandsFor l l := by
  cases h with
  | @id id _ given first =>
    have proper := (Location.properId_eq_some_iff.1 given).1
    exact .id (Location.properId_eq_some_iff.2 ⟨proper, id_of_find?_id first⟩) first
  | coord noId given => exact .coord noId given
  | name vague only =>
    have mem : l ∈ t.matching question := only ▸ List.mem_singleton_self l
    exact standsFor_self_of_mem ids (List.mem_filter.1 mem).1 fun _ => matching_self only

/-- So does what a place that may be missing stands for. -/
theorem rel_standsFor_self (ids : t.IdsTell) {asked : Option Location}
    (h : Option.Rel t.StandsFor asked via) : Option.Rel t.StandsFor via via := by
  cases h with
  | none => exact .none
  | some stands => exact .some (standsFor_self ids stands)

/-- The places that the places of a query stand for are known ends themselves. -/
theorem Ends.again (ids : t.IdsTell) (ends : t.Ends query origin via destination) :
    t.Ends { query with origin, via, destination } origin via destination where
  origin := standsFor_self ids ends.origin
  via := rel_standsFor_self ids ends.via
  destination := standsFor_self ids ends.destination

/-! ## The same answer -/

/-- A query that was answered with trips, or with the word that there are none, is answered in the
same way when its places are those of the answer: between the same places, with the same pages to go
on to and with the same trips, which are only created anew. -/
theorem trips_again (ids : t.IdsTell) (query : Query) (options : Options) (now other : Stamp)
    (answered : (t.trips now query options).status = .ok ∨
      (t.trips now query options).status = .noTrips) :
    ∃ origin via destination, (t.trips now query options).origin = some origin ∧
      (t.trips now query options).via = via ∧
      (t.trips now query options).destination = some destination ∧
      let again := t.trips other { query with origin, via, destination } options
      again.status = (t.trips now query options).status ∧
        again.origin = some origin ∧ again.via = via ∧ again.destination = some destination ∧
        again.continuation = (t.trips now query options).continuation ∧
        again.trips = (t.trips now query options).trips.map (Trip.createdAt · other) := by
  have decided := t.decided_trips now query options
  generalize t.trips now query options = answer at decided answered ⊢
  cases decided with
  | @ok origin destination via page ends apart connected first =>
    refine ⟨origin, via, destination, rfl, rfl, rfl, ?_⟩
    rw [trips_of_decided (.ok (ends.again ids) apart connected first)]
    exact ⟨rfl, rfl, rfl, rfl, rfl, serve_createdAt now other _ _ _ _ _⟩
  | @noTrips origin destination via ends apart unconnected =>
    refine ⟨origin, via, destination, rfl, rfl, rfl, ?_⟩
    rw [trips_of_decided (.noTrips (ends.again ids) apart unconnected)]
    exact ⟨rfl, rfl, rfl, rfl, rfl, rfl⟩
  | ambiguous | unknownOrigin | unknownVia | unknownDestination | tooClose =>
    rcases answered with ok | none <;> contradiction

/-- On the quayside the garden is found by its name, and it has nothing but its name to be found by
again. -/
theorem trips_again_gardenward :
    Paging.quayside.IdsTell ∧
      (Paging.quayside.trips ⟨0, 0⟩ Paging.gardenward .default).status = .ok ∧
      (Paging.quayside.trips ⟨0, 0⟩ Paging.gardenward .default).trips.length = 1 ∧
      let again := Paging.quayside.trips ⟨1, 0⟩
        { Paging.gardenward with destination := Paging.garden } .default
      again.status = .ok ∧ again.trips =
        (Paging.quayside.trips ⟨0, 0⟩ Paging.gardenward .default).trips.map
          (Trip.createdAt · ⟨1, 0⟩) := by
  have ids : Paging.quayside.IdsTell := by
    unfold IdsTell
    decide
  have ok : (Paging.quayside.trips ⟨0, 0⟩ Paging.gardenward .default).status = .ok := by rfl
  obtain ⟨origin, via, destination, start, between, finish, status, -, -, -, -, trips⟩ :=
    trips_again ids Paging.gardenward .default ⟨0, 0⟩ ⟨1, 0⟩ (.inl ok)
  obtain rfl : Paging.quay = origin := Option.some.inj start
  obtain rfl : none = via := between
  obtain rfl : Paging.garden = destination := Option.some.inj finish
  exact ⟨ids, ok, by rfl, status.trans ok, trips⟩

end Timetable

end Itinerary
