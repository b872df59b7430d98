import Itinerary.Proofs.Order.Listing
import Itinerary.Trip.Identity

/-!
# Putting pages of trips together

Merging a page looks at unique ids alone. It keeps those that are there, adds those of the page, and
brings none in twice, one page at a time (`mem_map_uniqueId_mergePage`,
`nodup_map_uniqueId_mergePage`) and over any number of pages (`mem_map_uniqueId_foldl_mergePage`,
`nodup_map_uniqueId_foldl_mergePage`).

Of several trips with one id the first stays, and whatever is there stays where it is, even if it is
there twice. So a merged list is the old one with the newcomers of the page behind it
(`mergePage_eq_append`), and how a run of trips is cut into pages makes no difference
(`mergePage_append`). What merging a page says of itself is in `merge_page`.
-/

namespace Itinerary.Trip

variable {existing page : List Trip} {t : Trip} {u : String}

/-! ## One trip -/

/-- A trip is known if its unique id is among those of the trips so far. -/
theorem any_uniqueId_iff :
    (existing.any fun e => e.uniqueId = t.uniqueId) = true ↔
      t.uniqueId ∈ existing.map uniqueId := by
  simp only [List.any_eq_true, decide_eq_true_eq, List.mem_map]

/-- A known trip is passed over. -/
theorem mergePage_cons_of_mem (known : t.uniqueId ∈ existing.map uniqueId) :
    mergePage existing (t :: page) = mergePage existing page := by
  rw [mergePage, if_pos (any_uniqueId_iff.2 known)]

/-- An unknown trip is put at the end. -/
theorem mergePage_cons_of_not_mem (unknown : t.uniqueId ∉ existing.map uniqueId) :
    mergePage existing (t :: page) = mergePage (existing ++ [t]) page := by
  rw [mergePage, if_neg (mt any_uniqueId_iff.1 unknown)]

/-! ## The ids of a merged list -/

/-- Merging loses no unique id and brings in those of the page only. -/
theorem mem_map_uniqueId_mergePage :
    u ∈ (mergePage existing page).map uniqueId ↔
      u ∈ existing.map uniqueId ∨ u ∈ page.map uniqueId := by
  induction page generalizing existing with
  | nil => simp only [mergePage, List.map_nil, List.not_mem_nil, or_false]
  | cons t page ih =>
    rw [List.map_cons, List.mem_cons]
    by_cases known : t.uniqueId ∈ existing.map uniqueId
    · rw [mergePage_cons_of_mem known, ih]
      constructor
      · rintro (old | new)
        · exact .inl old
        · exact .inr (.inr new)
      · rintro (old | rfl | new)
        · exact .inl old
        · exact .inl known
        · exact .inr new
    · rw [mergePage_cons_of_not_mem known, ih, List.map_append, List.mem_append,
        List.map_singleton, List.mem_singleton, or_assoc]

/-- Where no trip is there twice, none is after merging. -/
theorem nodup_map_uniqueId_mergePage (h : (existing.map uniqueId).Nodup) :
    ((mergePage existing page).map uniqueId).Nodup := by
  induction page generalizing existing with
  | nil => exact h
  | cons t page ih =>
    by_cases known : t.uniqueId ∈ existing.map uniqueId
    · rw [mergePage_cons_of_mem known]
      exact ih h
    · rw [mergePage_cons_of_not_mem known]
      apply ih
      rw [List.map_append, List.map_singleton, List.nodup_append]
      refine ⟨h, List.nodup_singleton _, ?_⟩
      rintro u old v new rfl
      rw [List.mem_singleton.1 new] at old
      exact known old

/-- After many pages, the unique ids are those of the start and of all pages. -/
theorem mem_map_uniqueId_foldl_mergePage {pages : List (List Trip)} :
    u ∈ (pages.foldl mergePage existing).map uniqueId ↔
      u ∈ existing.map uniqueId ∨ u ∈ pages.flatten.map uniqueId := by
  induction pages generalizing existing with
  | nil => simp only [List.foldl_nil, List.flatten_nil, List.map_nil, List.not_mem_nil, or_false]
  | cons page pages ih =>
    rw [List.foldl_cons, ih, mem_map_uniqueId_mergePage, List.flatten_cons, List.map_append,
      List.mem_append, or_assoc]

/-- Many pages one after the other bring no trip twice either. -/
theorem nodup_map_uniqueId_foldl_mergePage (pages : List (List Trip))
    (h : (existing.map uniqueId).Nodup) :
    ((pages.foldl mergePage existing).map uniqueId).Nodup := by
  induction pages generalizing existing with
  | nil => exact h
  | cons page pages ih => exact ih (nodup_map_uniqueId_mergePage h)

/-! ## The trips of a merged list -/

/-- The trips of a page whose unique id occurs neither in a list nor earlier on the page. -/
def newcomers (existing page : List Trip) : List Trip :=
  (page.zipIdx.filter fun (t, i) => t.uniqueId ∉ (existing ++ page.take i).map uniqueId).map
    Prod.fst

/-- The newcomers of a page are the first ones among its trips that are not known. -/
theorem newcomers_eq_firstOnes (existing page : List Trip) :
    newcomers existing page = firstOnes uniqueId (existing.map uniqueId) page := by
  simp only [newcomers, firstOnes, List.map_append]

/-- What merging a page adds to a list is the newcomers of the page, in their order. -/
theorem mergePage_eq_append (existing page : List Trip) :
    mergePage existing page = existing ++ newcomers existing page := by
  rw [newcomers_eq_firstOnes]
  induction page generalizing existing with
  | nil => exact (List.append_nil existing).symm
  | cons t page ih =>
    rw [firstOnes_cons]
    by_cases known : t.uniqueId ∈ existing.map uniqueId
    · rw [mergePage_cons_of_mem known, ih, if_pos known]
    · rw [mergePage_cons_of_not_mem known, ih, if_neg known, List.map_append, List.map_singleton,
        List.append_assoc, List.singleton_append]

/-- Two pages one after the other are merged as one. -/
theorem mergePage_append (existing page next : List Trip) :
    mergePage existing (page ++ next) = mergePage (mergePage existing page) next := by
  induction page generalizing existing with
  | nil => rfl
  | cons t page ih =>
    rw [List.cons_append]
    by_cases known : t.uniqueId ∈ existing.map uniqueId
    · rw [mergePage_cons_of_mem known, mergePage_cons_of_mem known, ih]
    · rw [mergePage_cons_of_not_mem known, mergePage_cons_of_not_mem known, ih]

/-- A page whose ids are all there adds nothing. -/
theorem mergePage_of_forall_mem (known : ∀ t ∈ page, t.uniqueId ∈ existing.map uniqueId) :
    mergePage existing page = existing := by
  induction page with
  | nil => rfl
  | cons t page ih =>
    obtain ⟨first, rest⟩ := List.forall_mem_cons.1 known
    rw [mergePage_cons_of_mem first, ih rest]

/-- Merging a page leaves the trips that are there as they are and puts the newcomers of the page
behind them, in their order; their number is what it tells. Every id of the page is in the merged
list. Merging the page once more adds nothing, and merging another page behind it is merging both as
one page. -/
theorem merge_page (existing page : List Trip) :
    merge existing page =
        (existing ++ newcomers existing page, (newcomers existing page).length) ∧
      (∀ t ∈ page, t.uniqueId ∈ (merge existing page).1.map uniqueId) ∧
      merge (merge existing page).1 page = ((merge existing page).1, 0) ∧
      ∀ next, (merge (merge existing page).1 next).1 = (merge existing (page ++ next)).1 := by
  have there : ∀ t ∈ page, t.uniqueId ∈ (mergePage existing page).map uniqueId := fun t mem =>
    mem_map_uniqueId_mergePage.2 (.inr (List.mem_map_of_mem mem))
  refine ⟨?_, there, ?_, fun next => (mergePage_append existing page next).symm⟩
  · rw [merge, mergePage_eq_append, List.length_append, Nat.add_sub_cancel_left]
  · show merge (mergePage existing page) page = (mergePage existing page, 0)
    rw [merge, mergePage_of_forall_mem there, Nat.sub_self]

end Itinerary.Trip
