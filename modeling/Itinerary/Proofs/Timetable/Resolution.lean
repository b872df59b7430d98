import Itinerary.Timetable.Places

/-!
# What a place in a question stands for

A place in a question is known by its id; without one it is known by its coordinate; and where it has
neither, all places that go by its name are meant (`Location.GoesBy`). So it stands for one place
(`Timetable.StandsFor`), for nothing that the timetable knows (`Timetable.Unknown`), or for several
places (`Timetable.Ambiguous`). Resolving a place tells which of the three it is
(`Timetable.resolve_eq_found_iff`, `Timetable.resolve_eq_unknown_iff`,
`Timetable.isAmbiguous_resolve_iff`); there is no fourth, and no two of them meet.
-/

namespace Itinerary

namespace Location

/-- A place that goes by the name in a question, the case of ASCII letters apart, and is in the town
of the question where it names one. -/
structure GoesBy (l question : Location) : Prop where
  name : ∃ name ∈ question.name, ∃ own ∈ l.name, Text.sameIgnoringAsciiCase own name = true
  place : ∀ place ∈ question.place, l.place = some place

instance (l question : Location) : Decidable (l.GoesBy question) :=
  decidable_of_iff
    ((∃ name ∈ question.name, ∃ own ∈ l.name, Text.sameIgnoringAsciiCase own name = true) ∧
      ∀ place ∈ question.place, l.place = some place)
    ⟨fun ⟨name, place⟩ => ⟨name, place⟩, fun h => ⟨h.name, h.place⟩⟩

/-- A place that has no id and no coordinate. -/
def Vague (l : Location) : Prop := l.properId = none ∧ l.coord = none

instance (l : Location) : Decidable l.Vague :=
  inferInstanceAs (Decidable (l.properId = none ∧ l.coord = none))

end Location

namespace Timetable

/-- The places that go by the name in a question, in the order of the timetable. -/
def matching (t : Timetable) (question : Location) : List Location :=
  t.locations.filter fun l => l.GoesBy question

/-- A place in a question that stands for several places. -/
def Ambiguous (t : Timetable) (question : Location) : Prop :=
  question.Vague ∧ 2 ≤ (t.matching question).length

instance (t : Timetable) (question : Location) : Decidable (t.Ambiguous question) :=
  inferInstanceAs (Decidable (question.Vague ∧ 2 ≤ (t.matching question).length))

/-- The place that a place in a question stands for. -/
inductive StandsFor (t : Timetable) (question : Location) : Location → Prop
  /-- The first place with the id. -/
  | id {id : String} {l : Location} (given : question.properId = some id)
    (first : t.locations.find? (·.id = some id) = some l) : StandsFor t question l
  /-- The coordinate itself. -/
  | coord (noId : question.properId = none) (given : question.coord ≠ none) :
    StandsFor t question question
  /-- The only place that goes by the name. -/
  | name {l : Location} (vague : question.Vague) (only : t.matching question = [l]) :
    StandsFor t question l

/-- A place in a question that stands for nothing. -/
inductive Unknown (t : Timetable) (question : Location) : Prop
  /-- No place has the id. -/
  | id {id : String} (given : question.properId = some id)
    (absent : ∀ l ∈ t.locations, l.id ≠ some id)
  /-- No place goes by the name. -/
  | name (vague : question.Vague) (given : question.name ≠ none)
    (absent : ∀ l ∈ t.locations, ¬ l.GoesBy question)
  /-- There is neither id nor coordinate nor name. -/
  | nothing (vague : question.Vague) (nameless : question.name = none)

variable {t : Timetable} {question l : Location}

/-- A location goes by the name that is asked for, whatever its ASCII case, and is in the town, if
one is asked for. -/
theorem goesBy_iff {name : String} (given : question.name = some name) :
    l.GoesBy question ↔ (∃ own, l.name = some own ∧ Text.sameIgnoringAsciiCase own name = true) ∧
      (question.place = none ∨ l.place = question.place) := by
  constructor
  · rintro ⟨⟨name', same, own, known, alike⟩, place⟩
    obtain rfl := Option.some.inj (given.symm.trans same)
    refine ⟨⟨own, known, alike⟩, ?_⟩
    cases wanted : question.place with
    | none => exact .inl rfl
    | some town => exact .inr (place town wanted)
  · rintro ⟨⟨own, known, alike⟩, place⟩
    refine ⟨⟨name, given, own, known, alike⟩, fun town wanted => ?_⟩
    rcases place with none | same
    · exact nomatch none.symm.trans wanted
    · exact same.trans wanted

/-- The search by name and town finds the locations that go by what is asked for. -/
theorem named_eq_matching {name : String} (given : question.name = some name) :
    t.named name question.place = t.matching question := by
  refine List.filter_congr fun l _ => ?_
  rw [Bool.eq_iff_iff, Bool.and_eq_true, decide_eq_true_iff, goesBy_iff given, Bool.or_eq_true,
    Option.isNone_iff_eq_none, decide_eq_true_iff]
  cases l.name with
  | none => simp
  | some own => simp

/-- Nothing matches just if no location goes by what is asked for. -/
theorem matching_eq_nil_iff :
    t.matching question = [] ↔ ∀ l ∈ t.locations, ¬ l.GoesBy question := by
  simp only [matching, List.filter_eq_nil_iff, decide_eq_true_iff]

theorem not_goesBy_of_nameless (nameless : question.name = none) : ¬ l.GoesBy question := by
  rintro ⟨⟨name, given, -⟩, -⟩
  exact nomatch nameless.symm.trans given

/-! ## Ids -/

/-- An id is not found just if no location has it. -/
theorem find?_id_eq_none_iff {id : String} :
    t.locations.find? (·.id = some id) = none ↔ ∀ l ∈ t.locations, l.id ≠ some id := by
  simp only [List.find?_eq_none, decide_eq_true_iff, ne_eq]

/-- What is found by an id has that id. -/
theorem id_of_find?_id {id : String} (first : t.locations.find? (·.id = some id) = some l) :
    l.id = some id := by
  have here := List.find?_some first
  exact of_decide_eq_true here

/-! ## Resolving -/

/-- An id decides alone: the first location with it is found, or the place is unknown. -/
theorem resolve_of_id {id : String} (given : question.properId = some id) :
    t.resolve question =
      (t.locations.find? (·.id = some id)).elim .unknown .found := by
  unfold resolve location?
  simp only [given]
  cases t.locations.find? (·.id = some id) with
  | none => rfl
  | some l => rfl

/-- A coordinate without an id is taken as it is. -/
theorem resolve_of_coord (noId : question.properId = none) (given : question.coord ≠ none) :
    t.resolve question = .found question := by
  have hasCoord : question.hasCoord = true := Option.isSome_iff_ne_none.2 given
  unfold resolve
  simp only [noId, hasCoord, if_true]

/-- How many places go by its name decides what a vague place stands for. -/
theorem resolve_of_vague (vague : question.Vague) :
    t.resolve question = match t.matching question with
      | [] => .unknown
      | [found] => .found found
      | many => .ambiguous many := by
  obtain ⟨noId, noCoord⟩ := vague
  have hasCoord : question.hasCoord = false := Option.isSome_eq_false_iff.2 (by simp [noCoord])
  unfold resolve
  simp only [noId, hasCoord]
  cases given : question.name with
  | none =>
    have nothing : t.matching question = [] :=
      matching_eq_nil_iff.2 fun l _ => not_goesBy_of_nameless given
    rw [nothing]
    rfl
  | some name =>
    simp only [named_eq_matching given]
    rfl

/-- What the outcome of resolving says. -/
theorem resolve_spec (t : Timetable) (question : Location) :
    match t.resolve question with
    | .found l => t.StandsFor question l
    | .unknown => t.Unknown question
    | .ambiguous many => t.Ambiguous question ∧ many = t.matching question := by
  cases given : question.properId with
  | some id =>
    rw [resolve_of_id given]
    cases first : t.locations.find? (·.id = some id) with
    | some l => exact .id given first
    | none => exact .id given (find?_id_eq_none_iff.1 first)
  | none =>
    by_cases coord : question.coord = none
    · have vague : question.Vague := ⟨given, coord⟩
      rw [resolve_of_vague vague]
      match many : t.matching question with
      | [] =>
        by_cases nameless : question.name = none
        · exact .nothing vague nameless
        · exact .name vague nameless (matching_eq_nil_iff.1 many)
      | [l] => exact .name vague many
      | l :: l' :: rest =>
        refine ⟨⟨vague, ?_⟩, rfl⟩
        rw [many]
        exact Nat.le_add_left 2 rest.length
    · rw [resolve_of_coord given coord]
      exact .coord given coord

theorem resolve_of_standsFor (h : t.StandsFor question l) : t.resolve question = .found l := by
  cases h with
  | id given first => rw [resolve_of_id given, first, Option.elim_some]
  | coord noId given => exact resolve_of_coord noId given
  | name vague only => rw [resolve_of_vague vague, only]

theorem resolve_of_unknown (h : t.Unknown question) : t.resolve question = .unknown := by
  cases h with
  | @id id given absent =>
    rw [resolve_of_id given, find?_id_eq_none_iff.2 absent, Option.elim_none]
  | name vague given absent => rw [resolve_of_vague vague, matching_eq_nil_iff.2 absent]
  | nothing vague nameless =>
    have nothing : t.matching question = [] :=
      matching_eq_nil_iff.2 fun l _ => not_goesBy_of_nameless nameless
    rw [resolve_of_vague vague, nothing]

/-- Where a place is ambiguous, all locations that match it are found. -/
theorem resolve_of_ambiguous (h : t.Ambiguous question) :
    t.resolve question = .ambiguous (t.matching question) := by
  obtain ⟨vague, several⟩ := h
  rw [resolve_of_vague vague]
  match many : t.matching question with
  | [] => rw [many] at several; contradiction
  | [l] => rw [many] at several; contradiction
  | l :: l' :: rest => rfl

theorem resolve_eq_found_iff : t.resolve question = .found l ↔ t.StandsFor question l := by
  refine ⟨fun found => ?_, resolve_of_standsFor⟩
  have spec := t.resolve_spec question
  rwa [found] at spec

theorem resolve_eq_unknown_iff : t.resolve question = .unknown ↔ t.Unknown question := by
  refine ⟨fun unknown => ?_, resolve_of_unknown⟩
  have spec := t.resolve_spec question
  rwa [unknown] at spec

/-- Several locations are found for a place just if it is ambiguous, and they are those that match
it. -/
theorem resolve_eq_ambiguous_iff {many : List Location} :
    t.resolve question = .ambiguous many ↔ t.Ambiguous question ∧ many = t.matching question := by
  constructor
  · intro ambiguous
    have spec := t.resolve_spec question
    rwa [ambiguous] at spec
  · rintro ⟨ambiguous, rfl⟩
    exact resolve_of_ambiguous ambiguous

/-- The test of an outcome for ambiguity says whether the place is ambiguous. -/
theorem isAmbiguous_resolve_iff :
    (t.resolve question).isAmbiguous = true ↔ t.Ambiguous question := by
  constructor
  · intro ambiguous
    cases outcome : t.resolve question with
    | found l => rw [outcome] at ambiguous; contradiction
    | unknown => rw [outcome] at ambiguous; contradiction
    | ambiguous many => exact (resolve_eq_ambiguous_iff.1 outcome).1
  · intro ambiguous
    rw [resolve_of_ambiguous ambiguous]
    rfl

/-- What stands for a place leaves no doubt. -/
theorem not_ambiguous_of_standsFor (h : t.StandsFor question l) : ¬ t.Ambiguous question := by
  intro ambiguous
  have found := resolve_of_standsFor h
  rw [resolve_of_ambiguous ambiguous] at found
  contradiction

/-- A place that is neither unknown nor ambiguous stands for a place. -/
theorem exists_standsFor (known : ¬ t.Unknown question) (clear : ¬ t.Ambiguous question) :
    ∃ l, t.StandsFor question l := by
  cases outcome : t.resolve question with
  | found l => exact ⟨l, resolve_eq_found_iff.1 outcome⟩
  | unknown => exact absurd (resolve_eq_unknown_iff.1 outcome) known
  | ambiguous many => exact absurd (resolve_eq_ambiguous_iff.1 outcome).1 clear

/-- The places to choose from for a place in a question. -/
def choices (t : Timetable) (question : Location) : List Location :=
  if t.Ambiguous question then t.matching question else []

/-- The choices that an answer offers are the candidates of the outcome. -/
theorem candidates_resolve (t : Timetable) (question : Location) :
    (t.resolve question).candidates = t.choices question := by
  unfold choices
  split
  · rename_i ambiguous
    rw [resolve_of_ambiguous ambiguous]
    rfl
  · rename_i clear
    cases outcome : t.resolve question with
    | found l => rfl
    | unknown => rfl
    | ambiguous many => exact absurd (resolve_eq_ambiguous_iff.1 outcome).1 clear

end Timetable

end Itinerary
