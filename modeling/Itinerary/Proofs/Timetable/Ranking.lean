import Itinerary.Proofs.Order.Listing
import Itinerary.Proofs.Timetable.Search

/-!
# In which order a search suggests

A search ranks the places of a timetable by number, so a place that is stored twice is two of them.
It ranks those whose kind is wanted and that weigh something for the text (`Timetable.Weighs`), each
once, the heavier first and of one weight in the order of the timetable (`Timetable.Ranks`). There
is one such ranking, and a limit is applied behind it (`Timetable.suggest_ranked`): what is left out
is the end of the ranking, never a heavier place for the sake of a lighter one.
-/

namespace Itinerary

/-- Questions for no kind are questions for every kind, and so are those for any kind. -/
theorem PlaceKind.isWanted_iff {kinds : List PlaceKind} {kind : PlaceKind} :
    kind.isWanted kinds = true ↔ kinds = [] ∨ .any ∈ kinds ∨ kind ∈ kinds := by
  simp only [isWanted, Bool.or_eq_true, List.isEmpty_iff, List.contains_iff_mem, or_assoc]

namespace Timetable

open Text
open Time (Stamp)

variable {t : Timetable} {text : String} {kinds : List PlaceKind} {needle : List Char}
  {l : Location} {p : Int32}

/-- What a location weighs for some lower case: three if that is the lower case of its name, two if
the name only begins with it, and one if it is elsewhere in the name or in the town. A name or a
town that is not known is empty. -/
inductive Weighs (needle : List Char) (l : Location) : Int32 → Prop where
  | whole (same : lowerFrom [] l.nameChars = needle) : Weighs needle l 3
  | start (longer : lowerFrom [] l.nameChars ≠ needle)
      (begins : needle <+: lowerFrom [] l.nameChars) : Weighs needle l 2
  | within (elsewhere : ¬ needle <+: lowerFrom [] l.nameChars)
      (occurs : needle <:+: lowerFrom [] l.nameChars ∨ needle <:+: lowerFrom [] l.placeChars) :
      Weighs needle l 1

/-- The weights are those of the rules, tried from the heaviest to the lightest. -/
theorem weight_eq_some_iff : weight needle l = some p ↔ Weighs needle l p := by
  rw [weight_eq]
  constructor
  · intro weighs
    split at weighs
    · rename_i same
      exact Option.some.inj weighs ▸ .whole same
    · rename_i longer
      split at weighs
      · rename_i begins
        exact Option.some.inj weighs ▸ .start longer begins
      · rename_i elsewhere
        split at weighs
        · rename_i occurs
          exact Option.some.inj weighs ▸ .within elsewhere occurs
        · contradiction
  · rintro (same | ⟨longer, begins⟩ | ⟨elsewhere, occurs⟩)
    · rw [if_pos same]
    · rw [if_neg longer, if_pos begins]
    · have longer : lowerFrom [] l.nameChars ≠ needle := fun same =>
        elsewhere (same ▸ List.prefix_rfl)
      rw [if_neg longer, if_neg elsewhere, if_pos occurs]

/-! ## Rankings -/

/-- The number of a location in a timetable, and what it weighs. -/
abbrev Entry (t : Timetable) : Type := Fin t.locations.length × Int32

/-- A location as it is suggested. -/
def Entry.suggestion (entry : t.Entry) : Suggestion := ⟨t.locations[entry.1], entry.2⟩

/-- An entry comes before another one if it is heavier, or if it weighs as much and its location
comes before the other one in the timetable. -/
def Entry.Precedes (a b : t.Entry) : Prop := b.2 < a.2 ∨ a.2 = b.2 ∧ a.1 < b.1

/-- The ranking of a search: every location of a wanted kind that weighs something, once, and in
order. -/
structure Ranks (t : Timetable) (text : String) (kinds : List PlaceKind)
    (ranking : List t.Entry) : Prop where
  listed : ∀ i p, (i, p) ∈ ranking ↔
    (kinds = [] ∨ .any ∈ kinds ∨ t.locations[i].kind ∈ kinds) ∧
      Weighs (lowerFrom [] (trim text).toList) t.locations[i] p
  once : (ranking.map Prod.fst).Nodup
  ordered : ranking.Pairwise Entry.Precedes

/-- No two entries come before each other, so a ranking has no ties. -/
theorem Entry.Precedes.asymm {a b : t.Entry} (before : a.Precedes b) : ¬ b.Precedes a := by
  intro behind
  simp only [Entry.Precedes, Int32.lt_iff_toInt_lt, ← Int32.toInt_inj] at before behind
  omega

/-- There is only one ranking of a search. -/
theorem Ranks.unique {ranking other : List t.Entry} (first : t.Ranks text kinds ranking)
    (second : t.Ranks text kinds other) : other = ranking := by
  have same : other.Perm ranking := by
    refine (List.perm_ext_iff_of_nodup second.once.of_map first.once.of_map).2 fun (i, p) => ?_
    rw [first.listed, second.listed]
  refine same.eq_of_pairwise (fun a b _ _ before behind => ?_) second.ordered first.ordered
  exact absurd behind before.asymm

/-- The entry of a location for a search, if it has one. -/
def entryAt (t : Timetable) (text : String) (kinds : List PlaceKind)
    (i : Fin t.locations.length) : Option t.Entry :=
  if t.locations[i].kind.isWanted kinds then
    (weight (lowercase (trim text)).toList t.locations[i]).map (i, ·)
  else none

/-- The entries for a search in the order of the timetable. -/
def entries (t : Timetable) (text : String) (kinds : List PlaceKind) : List t.Entry :=
  (List.finRange t.locations.length).filterMap (t.entryAt text kinds)

/-- The entries for a search, the heaviest first. -/
def ranking (t : Timetable) (text : String) (kinds : List PlaceKind) : List t.Entry :=
  (t.entries text kinds).mergeSort fun a b => b.2 ≤ a.2

/-- A location has an entry if it is of a wanted kind and weighs something, and the entry bears its
number. -/
theorem entryAt_eq_some_iff {i j : Fin t.locations.length} :
    t.entryAt text kinds i = some (j, p) ↔ i = j ∧
      (kinds = [] ∨ .any ∈ kinds ∨ t.locations[j].kind ∈ kinds) ∧
        Weighs (lowerFrom [] (trim text).toList) t.locations[j] p := by
  rw [← PlaceKind.isWanted_iff, ← weight_eq_some_iff, ← toList_lowercase, entryAt]
  constructor
  · intro made
    split at made
    · rename_i wanted
      obtain ⟨p, weighs, made⟩ := Option.map_eq_some_iff.1 made
      obtain ⟨rfl, rfl⟩ := Prod.mk.inj made
      exact ⟨rfl, wanted, weighs⟩
    · contradiction
  · rintro ⟨rfl, wanted, weighs⟩
    rw [if_pos wanted, weighs]
    rfl

/-- The entries are the locations of the wanted kinds that weigh something. -/
theorem mem_entries_iff {i : Fin t.locations.length} : (i, p) ∈ t.entries text kinds ↔
    (kinds = [] ∨ .any ∈ kinds ∨ t.locations[i].kind ∈ kinds) ∧
      Weighs (lowerFrom [] (trim text).toList) t.locations[i] p := by
  rw [entries, List.mem_filterMap]
  constructor
  · rintro ⟨j, -, made⟩
    exact (entryAt_eq_some_iff.1 made).2
  · intro holds
    exact ⟨i, List.mem_finRange i, entryAt_eq_some_iff.2 ⟨rfl, holds⟩⟩

/-- Entries come in the order of the timetable. -/
theorem pairwise_entries (t : Timetable) (text : String) (kinds : List PlaceKind) :
    (t.entries text kinds).Pairwise fun a b => a.1 < b.1 := by
  refine List.Pairwise.filterMap _ (fun i j before a made b made' => ?_)
    (List.pairwise_lt_finRange _)
  rw [← (entryAt_eq_some_iff.1 made).1, ← (entryAt_eq_some_iff.1 made').1]
  exact before

/-- Sorting the entries by weight gives the ranking, since sorting is stable. -/
theorem ranks_ranking (t : Timetable) (text : String) (kinds : List PlaceKind) :
    t.Ranks text kinds (t.ranking text kinds) := by
  have perm : (t.ranking text kinds).Perm (t.entries text kinds) := List.mergeSort_perm _ _
  have sorted : StablySorted (fun e : t.Entry => -e.2.toInt) (t.entries text kinds)
      (t.ranking text kinds) := by
    refine stablySorted_mergeSort (fun a b => ?_) _
    rw [decide_eq_true_iff, Int32.le_iff_toInt_le]
    omega
  refine ⟨fun i p => ?_, ?_, ?_⟩
  · rw [perm.mem_iff, mem_entries_iff]
  · refine (perm.map Prod.fst).nodup_iff.2 (List.pairwise_map.2 ?_)
    exact (pairwise_entries t text kinds).imp fun {a b} before => Fin.ne_of_lt before
  · refine (sorted.pairwise (pairwise_entries t text kinds)).imp fun {a b} before => ?_
    rw [Entry.Precedes, Int32.lt_iff_toInt_lt, ← Int32.toInt_inj]
    omega

/-! ## Suggestions -/

/-- Entries are what the search collects before it sorts. -/
theorem map_suggestion_entries (t : Timetable) (text : String) (kinds : List PlaceKind) :
    (t.entries text kinds).map Entry.suggestion =
      (t.locations.filter fun l => l.kind.isWanted kinds).filterMap fun l =>
        (weight (lowercase (trim text)).toList l).map (⟨l, ·⟩) := by
  have numbered := List.map_get_finRange t.locations
  conv_rhs => rw [← numbered]
  rw [entries, List.map_filterMap, List.filterMap_filter, List.filterMap_map]
  refine List.filterMap_congr fun i _ => ?_
  show (entryAt t text kinds i).map Entry.suggestion = _
  rw [entryAt]
  show _ = if t.locations[i].kind.isWanted kinds then _ else _
  split
  · rw [Option.map_map]
    rfl
  · rfl

/-- What the search suggests is the ranking without the numbers. -/
theorem suggestions_eq (t : Timetable) (text : String) (kinds : List PlaceKind) :
    t.suggestions text kinds = (t.ranking text kinds).map Entry.suggestion := by
  have sorted : (t.ranking text kinds).map Entry.suggestion =
      Suggestion.ranked ((t.entries text kinds).map Entry.suggestion) :=
    List.map_mergeSort fun _ _ _ _ => rfl
  rw [sorted, map_suggestion_entries, suggestions]

/-- For every search there is one ranking, and its answer under a limit is the beginning of it. So
what a smaller limit leaves is the beginning of what a greater one leaves. -/
theorem suggest_ranked (t : Timetable) (text : String) (kinds : List PlaceKind) :
    ∃ ranking, t.Ranks text kinds ranking ∧ (∀ other, t.Ranks text kinds other → other = ranking) ∧
      (∀ now limit, t.suggest now text kinds limit =
        ⟨t.header now, .ok, (ranking.take limit).map Entry.suggestion⟩) ∧
      ∀ now small large, small ≤ large → (t.suggest now text kinds small).suggestions <+:
        (t.suggest now text kinds large).suggestions := by
  have ranks := ranks_ranking t text kinds
  refine ⟨t.ranking text kinds, ranks, fun other second => ranks.unique second, ?_, ?_⟩
  · intro now limit
    rw [suggest, suggestions_eq, List.map_take]
  · intro now small large atMost
    exact List.take_prefix_take_left atMost

end Timetable

end Itinerary
