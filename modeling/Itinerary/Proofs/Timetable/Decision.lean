import Itinerary.Proofs.Timetable.Resolution
import Itinerary.Timetable.Backend
import Mathlib.Data.Option.Defs

/-!
# How a query for trips is decided

A timetable answers every query for trips, and it does so by seven rules (`Timetable.Decided`). The
query is ambiguous if any of its places stands for several; else the first of its places that stands
for nothing is reported; else its ends may be one and the same place; else no page may hold a trip
between them; and else the page that is served first answers. The rules give the whole answer, for
each query there is one that applies, and no two give different answers (`Timetable.trips_decided`).

That the page that is served first is there is a premise of the last rule. It holds whenever the
other premises do, since a page that holds a trip is one of at least one.
-/

namespace Itinerary

open Time (Stamp)

/-! ## Legs between places -/

/-- Legs that run between two places: the first starts at the one, the last ends at the other, and
where a third place is given, some leg starts or ends there. -/
structure Leg.Connects (legs : List Leg) (origin : Location) (via : Option Location)
    (destination : Location) : Prop where
  first : ∃ l, legs.head? = some l ∧ l.start.identity = origin.identity
  last : ∃ l, legs.getLast? = some l ∧ l.finish.identity = destination.identity
  via : ∀ v ∈ via, ∃ l ∈ legs, l.finish.identity = v.identity ∨ l.start.identity = v.identity

/-- The check of the legs decides whether they connect the places. -/
theorem Leg.connect_iff {legs : List Leg} {origin destination : Location} {via : Option Location} :
    Leg.connect legs origin via destination = true ↔
      Leg.Connects legs origin via destination := by
  unfold Leg.connect
  cases first : legs.head? with
  | none =>
    constructor
    · nofun
    · rintro ⟨⟨l, head, -⟩, -, -⟩
      exact nomatch first.symm.trans head
  | some l =>
    cases last : legs.getLast? with
    | none =>
      constructor
      · nofun
      · rintro ⟨-, ⟨m, final, -⟩, -⟩
        exact nomatch last.symm.trans final
    | some m =>
      simp only [Bool.and_eq_true, decide_eq_true_iff]
      constructor
      · rintro ⟨⟨start, finish⟩, between⟩
        refine ⟨⟨l, first, start⟩, ⟨m, last, finish⟩, ?_⟩
        rintro v ⟨⟩
        simpa using between
      · rintro ⟨⟨l', head, start⟩, ⟨m', final, finish⟩, between⟩
        obtain rfl := Option.some.inj (first.symm.trans head)
        obtain rfl := Option.some.inj (last.symm.trans final)
        refine ⟨⟨start, finish⟩, ?_⟩
        cases via with
        | none => rfl
        | some v => simpa using between v rfl

namespace Timetable

/-! ## The rules -/

/-- A query of which some place stands for several places. -/
def SomeAmbiguous (t : Timetable) (query : Query) : Prop :=
  t.Ambiguous query.origin ∨ (∃ via ∈ query.via, t.Ambiguous via) ∨ t.Ambiguous query.destination

/-- The places that the places of a query stand for. -/
structure Ends (t : Timetable) (query : Query) (origin : Location) (via : Option Location)
    (destination : Location) : Prop where
  origin : t.StandsFor query.origin origin
  via : Option.Rel t.StandsFor query.via via
  destination : t.StandsFor query.destination destination

/-- Some page holds a trip that runs between two places. -/
def Connected (t : Timetable) (origin : Location) (via : Option Location)
    (destination : Location) : Prop :=
  ∃ page ∈ t.pages, ∃ stored ∈ page.trips, Leg.Connects stored.legs origin via destination

/-- The answer to a query, rule by rule in the order in which they are tried. -/
inductive Decided (t : Timetable) (now : Stamp) (query : Query) (options : Options) :
    TripsAnswer → Prop
  | ambiguous (some : t.SomeAmbiguous query) :
    Decided t now query options (.bare (t.header now) (.ambiguous (t.choices query.origin)
      ((query.via.map t.choices).getD []) (t.choices query.destination)))
  | unknownOrigin (clear : ¬ t.SomeAmbiguous query) (unknown : t.Unknown query.origin) :
    Decided t now query options (.bare (t.header now) .unknownOrigin)
  | unknownVia {via : Location} (clear : ¬ t.SomeAmbiguous query)
    (origin : ¬ t.Unknown query.origin) (given : query.via = some via) (unknown : t.Unknown via) :
    Decided t now query options (.bare (t.header now) .unknownVia)
  | unknownDestination (clear : ¬ t.SomeAmbiguous query) (origin : ¬ t.Unknown query.origin)
    (via : ∀ v ∈ query.via, ¬ t.Unknown v) (unknown : t.Unknown query.destination) :
    Decided t now query options (.bare (t.header now) .unknownDestination)
  | tooClose {origin destination : Location} {via : Option Location}
    (ends : t.Ends query origin via destination) (close : origin.identity = destination.identity) :
    Decided t now query options (.bare (t.header now) .tooClose)
  | noTrips {origin destination : Location} {via : Option Location}
    (ends : t.Ends query origin via destination) (apart : origin.identity ≠ destination.identity)
    (unconnected : ¬ t.Connected origin via destination) :
    Decided t now query options { TripsAnswer.bare (t.header now) .noTrips with
      origin := some origin
      via := via
      destination := some destination }
  | ok {origin destination : Location} {via : Option Location} {page : Page}
    (ends : t.Ends query origin via destination) (apart : origin.identity ≠ destination.identity)
    (connected : t.Connected origin via destination)
    (first : t.pages[min t.initialPage (t.pages.length - 1)]? = some page) :
    Decided t now query options (.found (t.header now) origin via destination
      (some ⟨{ query with origin, via, destination }, options, t.cursorFrom t.firstPage false,
        t.cursorFrom t.firstPage true⟩)
      (serve now page origin via destination options))

variable {t : Timetable} {now : Stamp} {query : Query} {options : Options}
  {origin destination : Location} {via : Option Location} {answer : TripsAnswer}

/-! ## Premises -/

/-- The search through all pages decides whether the places are connected. -/
theorem hasTrip_iff : t.hasTrip origin via destination = true ↔
    t.Connected origin via destination := by
  simp only [hasTrip, Connected, List.any_eq_true, Leg.connect_iff]

/-- A page that holds a trip is one of at least one, so there is one to begin with. -/
theorem exists_firstPage (connected : t.Connected origin via destination) :
    ∃ page, t.pages[t.firstPage]? = some page := by
  obtain ⟨page, mem, -⟩ := connected
  have some : 0 < t.pages.length := List.length_pos_of_mem mem
  have inside : t.firstPage < t.pages.length := by
    rw [firstPage]
    omega
  exact ⟨_, List.getElem?_eq_getElem inside⟩

/-- The check for ambiguity decides whether any of the two or three places is ambiguous. -/
theorem anyAmbiguous_iff :
    ((t.resolve query.origin).isAmbiguous || (query.via.map t.resolve).any Resolution.isAmbiguous
      || (t.resolve query.destination).isAmbiguous) = true ↔ t.SomeAmbiguous query := by
  have between : (query.via.map t.resolve).any Resolution.isAmbiguous = true ↔
      ∃ via ∈ query.via, t.Ambiguous via := by
    cases query.via with
    | none => simp
    | some via => simp [isAmbiguous_resolve_iff]
  rw [Bool.or_eq_true, Bool.or_eq_true, isAmbiguous_resolve_iff, between, isAmbiguous_resolve_iff,
    or_assoc, SomeAmbiguous]

/-- A place that may be missing is resolved to the one that it stands for, or is missing still. -/
theorem map_resolve_of_standsFor {question found : Option Location}
    (h : Option.Rel t.StandsFor question found) : question.map t.resolve = found.map .found := by
  cases h with
  | none => rfl
  | some stands => exact congrArg some (resolve_of_standsFor stands)

/-- Where all places stand for one location each, none of them is ambiguous. -/
theorem Ends.clear (ends : t.Ends query origin via destination) : ¬ t.SomeAmbiguous query := by
  rintro (ambiguous | ⟨v, given, ambiguous⟩ | ambiguous)
  · exact not_ambiguous_of_standsFor ends.origin ambiguous
  · have between := ends.via
    rw [given] at between
    cases between with
    | some stands => exact not_ambiguous_of_standsFor stands ambiguous
  · exact not_ambiguous_of_standsFor ends.destination ambiguous

/-! ## Known places of a clear query -/

section Clear

variable (clear : ¬ t.SomeAmbiguous query)
include clear

theorem exists_origin (known : ¬ t.Unknown query.origin) : ∃ o, t.StandsFor query.origin o :=
  exists_standsFor known fun ambiguous => clear (.inl ambiguous)

/-- If the third place is known, or none is asked for, there is one location for it or none. -/
theorem exists_via (known : ∀ v ∈ query.via, ¬ t.Unknown v) :
    ∃ via, Option.Rel t.StandsFor query.via via := by
  cases given : query.via with
  | none => exact ⟨none, .none⟩
  | some v =>
    obtain ⟨between, stands⟩ := exists_standsFor (known v given) fun ambiguous =>
      clear (.inr (.inl ⟨v, given, ambiguous⟩))
    exact ⟨some between, .some stands⟩

/-- A destination that is known and not ambiguous stands for a location. -/
theorem exists_destination (known : ¬ t.Unknown query.destination) :
    ∃ d, t.StandsFor query.destination d :=
  exists_standsFor known fun ambiguous => clear (.inr (.inr ambiguous))

end Clear

/-! ## What the rules give is what is answered -/

/-- If one place is ambiguous, the answer has the choices for all of them. -/
theorem trips_of_someAmbiguous (some : t.SomeAmbiguous query) :
    t.trips now query options =
      .bare (t.header now) (.ambiguous (t.choices query.origin)
        ((query.via.map t.choices).getD []) (t.choices query.destination)) := by
  have choices : (query.via.map t.resolve).map Resolution.candidates =
      query.via.map t.choices := by
    rw [Option.map_map]
    exact congrArg (query.via.map ·) (funext t.candidates_resolve)
  unfold trips
  simp only
  rw [if_pos (anyAmbiguous_iff.2 some), candidates_resolve, candidates_resolve, choices]

/-- Without several places for any of its places, a query is answered by what they stand for. -/
theorem trips_of_clear (clear : ¬ t.SomeAmbiguous query) :
    t.trips now query options =
      match t.resolve query.origin, query.via.map t.resolve, t.resolve query.destination with
      | .found o, none, .found d => t.tripsBetween now query options o none d
      | .found o, some (.found v), .found d => t.tripsBetween now query options o (some v) d
      | .found _, none, _ => .bare (t.header now) .unknownDestination
      | .found _, some (.found _), _ => .bare (t.header now) .unknownDestination
      | .found _, some _, _ => .bare (t.header now) .unknownVia
      | _, _, _ => .bare (t.header now) .unknownOrigin := by
  unfold trips
  exact if_neg fun ambiguous => clear (anyAmbiguous_iff.1 ambiguous)

/-- Where all places are resolved, what is left is to look for trips between them. -/
theorem trips_of_ends (ends : t.Ends query origin via destination) :
    t.trips now query options = t.tripsBetween now query options origin via destination := by
  rw [trips_of_clear ends.clear, resolve_of_standsFor ends.origin,
    map_resolve_of_standsFor ends.via, resolve_of_standsFor ends.destination]
  cases via with
  | none => rfl
  | some v => rfl

/-- Every rule gives the answer. The first four are of places that stand for nothing, so what the
places in front of them stand for is wanted first. -/
theorem trips_of_decided (decided : Decided t now query options answer) :
    t.trips now query options = answer := by
  cases decided with
  | ambiguous some => exact trips_of_someAmbiguous some
  | unknownOrigin clear unknown => rw [trips_of_clear clear, resolve_of_unknown unknown]
  | unknownVia clear origin given unknown =>
    obtain ⟨o, stands⟩ := exists_origin clear origin
    rw [trips_of_clear clear, resolve_of_standsFor stands, given, Option.map_some,
      resolve_of_unknown unknown]
  | unknownDestination clear origin via unknown =>
    obtain ⟨o, stands⟩ := exists_origin clear origin
    obtain ⟨between, rel⟩ := exists_via clear via
    rw [trips_of_clear clear, resolve_of_standsFor stands, map_resolve_of_standsFor rel,
      resolve_of_unknown unknown]
    cases between with
    | none => rfl
    | some v => rfl
  | tooClose ends close => rw [trips_of_ends ends, tripsBetween, if_pos close]
  | noTrips ends apart unconnected =>
    rw [trips_of_ends ends, tripsBetween, if_neg apart, if_neg fun has =>
      unconnected (hasTrip_iff.1 has)]
  | ok ends apart connected first =>
    rw [trips_of_ends ends, tripsBetween, if_neg apart, if_pos (hasTrip_iff.2 connected)]
    simp only [firstPage, first]

/-! ## Some rule applies -/

/-- Between known ends, one of the last three rules applies. -/
theorem exists_decided_of_ends (ends : t.Ends query origin via destination) :
    ∃ answer, Decided t now query options answer := by
  by_cases close : origin.identity = destination.identity
  · exact ⟨_, .tooClose ends close⟩
  by_cases connected : t.Connected origin via destination
  · obtain ⟨page, first⟩ := exists_firstPage connected
    exact ⟨_, .ok ends close connected first⟩
  · exact ⟨_, .noTrips ends close connected⟩

/-- Some rule of the table applies to every query. -/
theorem exists_decided (t : Timetable) (now : Stamp) (query : Query) (options : Options) :
    ∃ answer, Decided t now query options answer := by
  by_cases several : t.SomeAmbiguous query
  · exact ⟨_, .ambiguous several⟩
  by_cases origin : t.Unknown query.origin
  · exact ⟨_, .unknownOrigin several origin⟩
  by_cases via : ∃ v ∈ query.via, t.Unknown v
  · obtain ⟨v, given, unknown⟩ := via
    exact ⟨_, .unknownVia several origin given unknown⟩
  have via : ∀ v ∈ query.via, ¬ t.Unknown v := fun v given unknown => via ⟨v, given, unknown⟩
  by_cases destination : t.Unknown query.destination
  · exact ⟨_, .unknownDestination several origin via destination⟩
  obtain ⟨o, origin⟩ := exists_origin several origin
  obtain ⟨v, via⟩ := exists_via several via
  obtain ⟨d, destination⟩ := exists_destination several destination
  exact exists_decided_of_ends ⟨origin, via, destination⟩

/-- The answer to a query is the one that the table decides on. -/
theorem decided_trips (t : Timetable) (now : Stamp) (query : Query) (options : Options) :
    Decided t now query options (t.trips now query options) := by
  obtain ⟨answer, decided⟩ := t.exists_decided now query options
  rwa [trips_of_decided decided]

namespace Decided

variable (decided : Decided t now query options answer)
include decided

/-- Of all answers that the table gives, those with the status `ok` can be continued. -/
theorem continuation_isSome_iff : answer.continuation.isSome = true ↔ answer.status = .ok := by
  cases decided with
  | ok => exact iff_of_true rfl rfl
  | ambiguous | unknownOrigin | unknownVia | unknownDestination | tooClose | noTrips =>
    exact iff_of_false nofun nofun

/-- Trips come with the status `ok` only. -/
theorem status_of_trips (some : answer.trips ≠ []) : answer.status = .ok := by
  cases decided with
  | ok => rfl
  | ambiguous | unknownOrigin | unknownVia | unknownDestination | tooClose | noTrips =>
    exact absurd rfl some

end Decided

/-- Every query is answered, with the one answer that the rules give; the answer holds a continuation
just if its status is `ok`, and only then any trips. -/
theorem trips_decided (t : Timetable) (now : Stamp) (query : Query) (options : Options) :
    ∃ answer, (t.backend now).trips query options = .ok answer ∧
      (∀ other, Decided t now query options other ↔ other = answer) ∧
      (answer.continuation.isSome = true ↔ answer.status = .ok) ∧
      (answer.trips ≠ [] → answer.status = .ok) := by
  have decided := t.decided_trips now query options
  refine ⟨_, rfl, fun other => ⟨fun also => (trips_of_decided also).symm, ?_⟩,
    decided.continuation_isSome_iff, decided.status_of_trips⟩
  rintro rfl
  exact decided

end Timetable

end Itinerary
