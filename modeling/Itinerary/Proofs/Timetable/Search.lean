import Itinerary.Proofs.Text.Lowercase
import Itinerary.Timetable.Places

/-!
# What a search finds

A search compares lower case with lower case, each text being lower-cased by itself. So what
travellers copy from a name is found as long as it has the same lower case there and by itself
(`Text.OccursAlike`), and a copy of the beginning or of the whole weighs more. A sigma may spoil
that: `ΜΟΥΣ` ends in a final sigma, and the same letters of `ΜΟΥΣΕΙΟ` end in a medial one
(`Timetable.suggest_museum`).

The texts that are found wherever they are copied from are those that settle their own sigmas, and
no others (`Timetable.suggest_copied`).
-/

namespace Itinerary

namespace Text

variable {needle hay : List Char}

/-- The search for a text in a text finds it just if it stands there in one piece. -/
theorem occursIn_iff : occursIn needle hay = true ↔ needle <:+: hay := by
  induction hay with
  | nil => simp [occursIn]
  | cons c rest ih =>
    rw [occursIn, Bool.or_eq_true, ih, List.isPrefixOf_iff_prefix, List.infix_cons_iff]

/-- A text occurs in another one where its sigmas have the forms that they have by themselves. -/
def OccursAlike (needle hay : List Char) : Prop :=
  ∃ before after, hay = before ++ needle ++ after ∧ KeepsForms before.reverse after needle

/-- Another text begins with a text whose sigmas have the forms there that they have by themselves.
-/
def BeginsAlike (needle hay : List Char) : Prop :=
  ∃ after, hay = needle ++ after ∧ KeepsForms [] after needle

theorem BeginsAlike.occursAlike (begins : BeginsAlike needle hay) : OccursAlike needle hay := by
  obtain ⟨after, rfl, keeps⟩ := begins
  exact ⟨[], after, rfl, keeps⟩

/-- Where its sigmas keep their forms, a text is lower-cased as by itself. -/
theorem lowerBetween_of_keepsForms {before after : List Char}
    (keeps : KeepsForms before after needle) :
    lowerBetween before after needle = lowerFrom [] needle := by
  rw [← lowerBetween_nil]
  exact lowerBetween_eq_iff.2 keeps

/-- What occurs alike is found in the lower case of the longer text. -/
theorem OccursAlike.infix (occurs : OccursAlike needle hay) :
    lowerFrom [] needle <:+: lowerFrom [] hay := by
  obtain ⟨before, after, rfl, keeps⟩ := occurs
  rw [← lowerBetween_nil [] (before ++ needle ++ after), lowerBetween_append, lowerBetween_append,
    List.append_nil, List.append_nil, lowerBetween_of_keepsForms keeps]
  exact List.infix_append _ _ _

/-- What begins alike is found at the start of the lower case of the longer text. -/
theorem BeginsAlike.isPrefix (begins : BeginsAlike needle hay) :
    lowerFrom [] needle <+: lowerFrom [] hay := by
  obtain ⟨after, rfl, keeps⟩ := begins
  rw [← lowerBetween_nil [] (needle ++ after), lowerBetween_append, List.append_nil,
    lowerBetween_of_keepsForms keeps]
  exact List.prefix_append _ _

/-- A settled text occurs alike wherever it occurs. -/
theorem Settled.occursAlike (settled : Settled needle) (occurs : needle <:+: hay) :
    OccursAlike needle hay := by
  obtain ⟨before, after, rfl⟩ := occurs
  exact ⟨before, after, rfl, settled.keepsForms before.reverse after⟩

/-- A settled text begins alike wherever it begins. -/
theorem Settled.beginsAlike (settled : Settled needle) (begins : needle <+: hay) :
    BeginsAlike needle hay := by
  obtain ⟨after, rfl⟩ := begins
  exact ⟨after, rfl, settled.keepsForms [] after⟩

end Text

/-! ## Weights -/

/-- The name of a location as it is searched: nothing where there is none. -/
def Location.nameChars (l : Location) : List Char := (l.name.getD "").toList

/-- The town of a location as it is searched: nothing where there is none. -/
def Location.placeChars (l : Location) : List Char := (l.place.getD "").toList

namespace Timetable

open Text
open Time (Stamp)

variable {t : Timetable} {now : Stamp} {text : String} {kinds : List PlaceKind} {limit : Nat}
  {l : Location} {needle : List Char} {p : Int32} {s : Suggestion}

theorem toList_lowercase (s : String) : (lowercase s).toList = lowerFrom [] s.toList :=
  String.toList_ofList

/-- How much a location weighs for some lower case, by where its name and its town have it in their
own lower case. -/
theorem weight_eq (needle : List Char) (l : Location) :
    weight needle l =
      if lowerFrom [] l.nameChars = needle then some 3
      else if needle <+: lowerFrom [] l.nameChars then some 2
      else if needle <:+: lowerFrom [] l.nameChars ∨ needle <:+: lowerFrom [] l.placeChars then
        some 1
      else none := by
  simp only [weight, toList_lowercase, Location.nameChars, Location.placeChars,
    List.isPrefixOf_iff_prefix, Bool.or_eq_true, occursIn_iff]
  congr

/-- What is found weighs two at least where it stands at the beginning of the name, and three where
it is the name. -/
theorem exists_weight
    (occurs : needle <:+: lowerFrom [] l.nameChars ∨ needle <:+: lowerFrom [] l.placeChars) :
    ∃ p, weight needle l = some p ∧ (needle <+: lowerFrom [] l.nameChars → 2 ≤ p) ∧
      (lowerFrom [] l.nameChars = needle → p = 3) := by
  by_cases whole : lowerFrom [] l.nameChars = needle
  · exact ⟨3, by rw [weight_eq, if_pos whole], fun _ => by decide, fun _ => rfl⟩
  · by_cases begins : needle <+: lowerFrom [] l.nameChars
    · refine ⟨2, ?_, fun _ => by decide, fun same => absurd same whole⟩
      rw [weight_eq, if_neg whole, if_pos begins]
    · refine ⟨1, ?_, fun same => absurd same begins, fun same => absurd same whole⟩
      rw [weight_eq, if_neg whole, if_neg begins, if_pos occurs]

/-- Only what occurs in the name or the town is found. -/
theorem occurs_of_weight (weighs : weight needle l = some p) :
    needle <:+: lowerFrom [] l.nameChars ∨ needle <:+: lowerFrom [] l.placeChars := by
  by_contra nowhere
  have whole : ¬ lowerFrom [] l.nameChars = needle := fun same =>
    nowhere (.inl (same ▸ List.infix_rfl))
  have begins : ¬ needle <+: lowerFrom [] l.nameChars := fun prefixed =>
    nowhere (.inl prefixed.isInfix)
  rw [weight_eq, if_neg whole, if_neg begins, if_neg nowhere] at weighs
  exact nomatch weighs

/-! ## Suggestions -/

/-- A limit that leaves room for every location leaves out no suggestion. -/
theorem mem_suggest_iff (room : t.locations.length ≤ limit) :
    s ∈ (t.suggest now text kinds limit).suggestions ↔
      s.location ∈ t.locations ∧ s.location.kind.isWanted kinds = true ∧
        weight (lowerFrom [] (trim text).toList) s.location = some s.priority := by
  have all : (t.suggestions text kinds).take limit = t.suggestions text kinds := by
    apply List.take_of_length_le
    rw [suggestions, Suggestion.ranked, List.length_mergeSort]
    exact (List.length_filterMap_le _ _).trans ((List.length_filter_le _ _).trans room)
  rw [suggest, all, suggestions, Suggestion.ranked, (List.mergeSort_perm _ _).mem_iff,
    List.mem_filterMap, toList_lowercase]
  constructor
  · rintro ⟨l, mem, made⟩
    obtain ⟨p, weighs, rfl⟩ := Option.map_eq_some_iff.1 made
    obtain ⟨there, wanted⟩ := List.mem_filter.1 mem
    exact ⟨there, wanted, weighs⟩
  · rintro ⟨there, wanted, weighs⟩
    exact ⟨s.location, List.mem_filter.2 ⟨there, wanted⟩, by rw [weighs]; rfl⟩

/-- Searches find the locations in whose name or town a text occurs, in some sense of occurring and
of beginning: if the limit leaves room for all locations and its kind is wanted, such a location is
among the suggestions. Its weight is two or three if its name begins with the text and three if its
name is the text. -/
def FindsCopies (occurs begins : List Char → List Char → Prop) (text : String) : Prop :=
  ∀ (t : Timetable) (now : Stamp) (kinds : List PlaceKind) (limit : Nat), ∀ l ∈ t.locations,
    l.kind.isWanted kinds = true → t.locations.length ≤ limit →
      occurs (trim text).toList l.nameChars ∨ occurs (trim text).toList l.placeChars →
        ∃ p, ⟨l, p⟩ ∈ (t.suggest now text kinds limit).suggestions ∧
          (begins (trim text).toList l.nameChars → 2 ≤ p) ∧
          (l.nameChars = (trim text).toList → p = 3)

/-- What occurs alike is found, and it weighs more where it begins a name or is the whole of one. -/
theorem findsCopies_alike (text : String) : FindsCopies OccursAlike BeginsAlike text := by
  intro t now kinds limit l there wanted room occurs
  obtain ⟨p, weighs, two, three⟩ :=
    exists_weight (occurs.imp OccursAlike.infix OccursAlike.infix)
  refine ⟨p, (mem_suggest_iff room).2 ⟨there, wanted, weighs⟩, ?_, ?_⟩
  · intro begins
    exact two begins.isPrefix
  · intro whole
    exact three (by rw [whole])

/-- What settles its sigmas occurs alike wherever it occurs. -/
theorem findsCopies_of_settled (settled : Settled (trim text).toList) :
    FindsCopies (· <:+: ·) (· <+: ·) text := by
  intro t now kinds limit l there wanted room occurs
  obtain ⟨p, suggested, two, three⟩ := findsCopies_alike text t now kinds limit l there wanted
    room (occurs.imp settled.occursAlike settled.occursAlike)
  refine ⟨p, suggested, ?_, three⟩
  intro begins
  exact two (settled.beginsAlike begins)

/-- A timetable of one place. -/
def ofPlace (l : Location) : Timetable where
  network := ⟨"PLACE", by decide⟩
  locations := [l]
  departures := []
  pages := []
  initialPage := 0
  details := []

/-- A place of which nothing but the name is known. -/
def nameOnly (name : List Char) : Location := .ofName .poi (String.ofList name)

theorem nameChars_nameOnly (name : List Char) : (nameOnly name).nameChars = name :=
  String.toList_ofList

/-- A text that does not settle its sigmas is missed in the name of some place. -/
theorem exists_missed (unsettled : ¬ Settled (trim text).toList) :
    ∃ l : Location, (trim text).toList <:+: l.nameChars ∧
      ∀ p, ⟨l, p⟩ ∉ ((ofPlace l).suggest ⟨0, 0⟩ text [] 1).suggestions := by
  obtain ⟨before, after, lost⟩ := exists_lost unsettled
  refine ⟨nameOnly (before ++ (trim text).toList ++ after), ?_, ?_⟩
  · rw [nameChars_nameOnly]
    exact List.infix_append _ _ _
  · intro p suggested
    obtain ⟨-, -, weighs⟩ := (mem_suggest_iff le_rfl).1 suggested
    rcases occurs_of_weight weighs with occurs | occurs
    · rw [nameChars_nameOnly] at occurs
      exact lost occurs
    · -- Only the empty text occurs in a town that is not known, and that one is never lost.
      have empty : lowerFrom [] (trim text).toList = [] := List.infix_nil.1 occurs
      rw [empty] at lost
      exact lost List.nil_infix

/-- Whatever a text is copied from is found where its sigmas have the forms that they have by
themselves. It is found wherever it is copied from just if it settles its sigmas. -/
theorem suggest_copied (text : String) :
    FindsCopies OccursAlike BeginsAlike text ∧
      (FindsCopies (· <:+: ·) (· <+: ·) text ↔ Settled (trim text).toList) := by
  refine ⟨findsCopies_alike text, ?_⟩
  constructor
  · intro finds
    by_contra unsettled
    obtain ⟨l, occurs, missed⟩ := exists_missed unsettled
    obtain ⟨p, suggested, -⟩ :=
      finds (ofPlace l) ⟨0, 0⟩ [] 1 l (List.mem_singleton_self l) rfl le_rfl (.inl occurs)
    exact missed p suggested
  · exact findsCopies_of_settled

example : Settled "ΣΤΑΣΗ".toList ∧ ¬ Settled "ΟΔΟΣ".toList := by decide +kernel

def street : Location := .ofName .address "ΟΔΟΣ ΕΡΜΟΥ"

/-- A street is found by what is copied from its name: the sigma ends a word there as well. -/
theorem suggest_copied_street :
    ∃ p, ⟨street, p⟩ ∈ ((ofPlace street).suggest ⟨0, 0⟩ " ΟΔΟΣ " [.address] 1).suggestions ∧
      2 ≤ p := by
  have begins : BeginsAlike (trim " ΟΔΟΣ ").toList street.nameChars :=
    ⟨" ΕΡΜΟΥ".toList, by decide +kernel, by decide +kernel⟩
  obtain ⟨p, suggested, two, -⟩ := (suggest_copied " ΟΔΟΣ ").1 (ofPlace street) ⟨0, 0⟩
    [.address] 1 street (List.mem_singleton_self street) rfl le_rfl (.inl begins.occursAlike)
  exact ⟨p, suggested, two begins⟩

def museum : Location := { Location.ofName .poi "ΜΟΥΣΕΙΟ" with id := some "museum" }

/-- The first letters of a museum do not find it: their sigma ends a word by itself. -/
theorem suggest_museum :
    trim "ΜΟΥΣ" = "ΜΟΥΣ" ∧ "ΜΟΥΣ".toList <+: museum.nameChars ∧
      ((ofPlace museum).suggest ⟨0, 0⟩ "ΜΟΥΣ" [] 10).suggestions = [] := by
  decide +kernel

end Timetable

end Itinerary
