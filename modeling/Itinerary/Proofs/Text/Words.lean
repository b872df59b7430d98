import Itinerary.Proofs.Text.Bytes

/-!
# Trimmed texts and first words

Trimming leaves the one part of a text that neither begins nor ends with a blank and has nothing
but blanks around it (`Text.trimChars_eq_iff`). Cutting at the first blank gives the characters
before it, none of which is blank, and those behind it (`Text.cutAtBlank_eq_some_iff`).
-/

namespace Itinerary.Text

variable {cs kept word rest : List Char} {c : Char}

/-- Characters that neither begin nor end with a blank. -/
def Trimmed (cs : List Char) : Prop :=
  (∀ c ∈ cs.head?, isBlank c = false) ∧ ∀ c ∈ cs.getLast?, isBlank c = false

/-- A text has a visible character, or it is blank. -/
theorem visible_or_blank (cs : List Char) :
    (∃ c ∈ cs, isBlank c = false) ∨ ∀ c ∈ cs, isBlank c = true := by
  by_cases seen : ∃ c ∈ cs, isBlank c = false
  · exact .inl seen
  · exact .inr fun c mem => Bool.of_not_eq_false fun visible => seen ⟨c, mem, visible⟩

theorem trimmed_of_visible (visible : ∀ c ∈ cs, isBlank c = false) : Trimmed cs :=
  ⟨fun c first => visible c (List.mem_of_head? first),
    fun c last => visible c (List.mem_of_getLast? last)⟩

/-- What two trimmed parts enclose does not matter. -/
theorem Trimmed.append {front back : List Char} (first : Trimmed front) (last : Trimmed back)
    (begun : front ≠ []) (ended : back ≠ []) (gap : List Char) :
    Trimmed (front ++ gap ++ back) := by
  constructor
  · intro c here
    rw [List.append_assoc, List.head?_append_of_ne_nil _ begun] at here
    exact first.1 c here
  · intro c here
    rw [List.getLast?_append_of_ne_nil _ ended] at here
    exact last.2 c here

/-! ## Trimming -/

/-- What is cut at the end are blanks, and a visible character stands before them, if any does. -/
theorem exists_blanks_behind (cs : List Char) :
    ∃ back, (∀ c ∈ back, isBlank c = true) ∧ cs = trimEnd cs ++ back ∧
      ∀ c ∈ (trimEnd cs).getLast?, isBlank c = false := by
  have no_last (c : Char) (last : c ∈ ([] : List Char).getLast?) : isBlank c = false :=
    absurd last (Option.not_mem_none c)
  induction cs with
  | nil => exact ⟨[], List.forall_mem_nil _, rfl, no_last⟩
  | cons c cs ih =>
    obtain ⟨back, blank, whole, last⟩ := ih
    rw [trimEnd]
    split
    · rename_i empty
      rw [empty, List.nil_append] at whole
      subst whole
      by_cases here : isBlank c = true
      · rw [if_pos here]
        exact ⟨c :: cs, List.forall_mem_cons.2 ⟨here, blank⟩, rfl, no_last⟩
      · rw [if_neg here]
        refine ⟨cs, blank, rfl, fun d same => ?_⟩
        rw [← Option.some.inj same]
        exact Bool.eq_false_iff.2 here
    · rename_i some_kept
      refine ⟨back, blank, by rw [List.cons_append, ← whole], fun d same => last d ?_⟩
      rwa [List.getLast?_cons_of_ne_nil some_kept] at same

/-- A text that ends in a visible character keeps its end. -/
theorem trimEnd_eq_self (last : ∀ c ∈ cs.getLast?, isBlank c = false) : trimEnd cs = cs := by
  rcases List.eq_nil_or_concat cs with rfl | ⟨front, c, rfl⟩
  · rfl
  · rw [List.concat_eq_append] at last ⊢
    exact trimEnd_append_visible front (Bool.eq_false_iff.1 (last c List.getLast?_concat))

/-- Trimming leaves the part of a text that neither begins nor ends with a blank and has nothing but
blanks around it. -/
theorem trimChars_eq_iff : trimChars cs = kept ↔
    ∃ front back, (∀ c ∈ front, isBlank c = true) ∧ (∀ c ∈ back, isBlank c = true) ∧
      cs = front ++ kept ++ back ∧ Trimmed kept := by
  constructor
  · rintro rfl
    obtain ⟨back, blank, whole, last⟩ := exists_blanks_behind (cs.dropWhile isBlank)
    refine ⟨cs.takeWhile isBlank, back, fun c mem => ?_, blank, ?_, fun c first => ?_, last⟩
    · exact List.all_eq_true.1 List.all_takeWhile c mem
    · rw [List.append_assoc, trimChars, ← whole, List.takeWhile_append_dropWhile]
    · -- What is left begins where the blanks in front end.
      have here : (cs.dropWhile isBlank).head? = some c := by
        rw [whole, List.head?_append, show (trimEnd _).head? = some c from first]
        rfl
      have stops := List.head?_dropWhile_not isBlank cs
      rw [here] at stops
      simpa using stops
  · rintro ⟨front, back, before, behind, rfl, first, last⟩
    rw [trimChars, List.append_assoc, List.dropWhile_append_of_pos before]
    cases kept with
    | nil =>
      rw [List.nil_append]
      exact trim_of_blank behind
    | cons c kept =>
      have visible : isBlank c = false := first c rfl
      rw [List.cons_append, List.dropWhile_cons_of_neg (Bool.eq_false_iff.1 visible),
        ← List.cons_append, trimEnd_append_of_blank _ behind, trimEnd_eq_self last]

theorem trimmed_trimChars (cs : List Char) : Trimmed (trimChars cs) := by
  obtain ⟨-, -, -, -, -, trimmed⟩ := trimChars_eq_iff.1 (rfl : trimChars cs = trimChars cs)
  exact trimmed

/-! ## Cutting -/

/-- Either nothing in a text is blank, or there is a first blank. -/
theorem visible_or_exists_blank (cs : List Char) : (∀ c ∈ cs, isBlank c = false) ∨
    ∃ word c rest, isBlank c = true ∧ (∀ d ∈ word, isBlank d = false) ∧
      cs = word ++ c :: rest := by
  induction cs with
  | nil => exact .inl nofun
  | cons c cs ih =>
    cases here : isBlank c with
    | true => exact .inr ⟨[], c, cs, here, nofun, rfl⟩
    | false =>
      obtain visible | ⟨word, d, rest, blank, visible, rfl⟩ := ih
      · exact .inl (List.forall_mem_cons.2 ⟨here, visible⟩)
      · exact .inr ⟨c :: word, d, rest, blank, List.forall_mem_cons.2 ⟨here, visible⟩, rfl⟩

theorem cutAtBlank_of_visible (visible : ∀ c ∈ cs, isBlank c = false) : cutAtBlank cs = none := by
  induction cs with
  | nil => rfl
  | cons c cs ih =>
    obtain ⟨first, others⟩ := List.forall_mem_cons.1 visible
    rw [cutAtBlank, first, ih others]
    rfl

/-- A word ends at the first blank behind it. -/
theorem cutAtBlank_append (visible : ∀ c ∈ word, isBlank c = false) (blank : isBlank c = true) :
    cutAtBlank (word ++ c :: rest) = some (word, rest) := by
  induction word with
  | nil => rw [List.nil_append, cutAtBlank, if_pos blank]
  | cons d word ih =>
    obtain ⟨first, others⟩ := List.forall_mem_cons.1 visible
    rw [List.cons_append, cutAtBlank, first, ih others]
    rfl

/-- Before the cut stands what comes before the first blank, and behind it what comes behind. -/
theorem cutAtBlank_eq_some_iff : cutAtBlank cs = some (word, rest) ↔
    ∃ c, isBlank c = true ∧ (∀ d ∈ word, isBlank d = false) ∧ cs = word ++ c :: rest := by
  constructor
  · intro cut
    obtain visible | ⟨front, c, behind, blank, visible, rfl⟩ := visible_or_exists_blank cs
    · rw [cutAtBlank_of_visible visible] at cut
      contradiction
    · rw [cutAtBlank_append visible blank, Option.some.injEq, Prod.mk.injEq] at cut
      obtain ⟨rfl, rfl⟩ := cut
      exact ⟨c, blank, visible, rfl⟩
  · rintro ⟨c, blank, visible, rfl⟩
    exact cutAtBlank_append visible blank

end Itinerary.Text
