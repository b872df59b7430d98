import Itinerary.Position
import Itinerary.Proofs.Text.Words

/-!
# Which positions texts name

A text names a position by its first word and by what stands behind that word (`Position.Spells`).
Reading finds just that (`Position.parse_eq_ok_iff`), for every text in which something is visible;
a text of blanks alone is refused as the empty text (`Position.parse_eq_error_iff`). The name that is
cut off is checked once more when a section follows it, and that check never refuses one
(`Position.named_of_cutAtBlank`).

A position is shown with one space in front of its section. That text names it again, so texts that
are read as positions are read as one position just if their positions are shown alike. Positions
that were not read from a text need not be of that kind: a section may be empty or have blanks
around it, and then it is not what is read back.
-/

namespace Itinerary.Position

open Text

variable {text : String} {cs rest : List Char} {p q : Position} {v : Violation}

/-- What may stand behind the name of a position: nothing but blanks without a section, and else the
section with blanks around it, which neither begins nor ends with a blank itself. -/
def Follows : Option String → List Char → Prop
  | none, rest => ∀ c ∈ rest, isBlank c = true
  | some s, rest => s ≠ "" ∧ Trimmed s.toList ∧
      ∃ gap back, (∀ c ∈ gap, isBlank c = true) ∧ (∀ c ∈ back, isBlank c = true) ∧
        rest = gap ++ s.toList ++ back

/-- A text names a position: the name is the first run of characters that are not blank, as far as
it goes, and the section is what follows, trimmed, if that leaves anything. -/
def Spells (cs : List Char) (p : Position) : Prop :=
  ∃ before rest, cs = before ++ p.name.toList ++ rest ∧ (∀ c ∈ before, isBlank c = true) ∧
    p.name ≠ "" ∧ (∀ c ∈ p.name.toList, isBlank c = false) ∧
    (∀ c ∈ rest.head?, isBlank c = true) ∧ Follows p.section rest

/-- A text without blanks is a name. -/
theorem named_of_visible {name : String} (some_name : name ≠ "")
    (visible : ∀ c ∈ name.toList, isBlank c = false) : named name = .ok ⟨name, none⟩ := by
  rw [named, trim_eq_of_visible visible, if_neg some_name]

/-! ## From texts to positions -/

/-- Whatever stands behind a name is read as a section or as none. -/
theorem exists_follows (rest : List Char) : ∃ part, Follows part rest := by
  by_cases nothing : trimChars rest = []
  · exact ⟨none, trimChars_eq_nil_iff.1 nothing⟩
  · obtain ⟨gap, back, before, behind, whole, trimmed⟩ :=
      trimChars_eq_iff.1 (rfl : trimChars rest = trimChars rest)
    rw [← String.toList_ofList (l := trimChars rest)] at whole trimmed
    refine ⟨some (String.ofList (trimChars rest)), ?_, trimmed, gap, back, before, behind, whole⟩
    exact mt String.ofList_eq_empty_iff.1 nothing

/-- A text with a visible character in it names a position. -/
theorem exists_spells (seen : ∃ c ∈ cs, isBlank c = false) : ∃ p, Spells cs p := by
  obtain ⟨front, back, before, behind, whole, trimmed⟩ :=
    trimChars_eq_iff.1 (rfl : trimChars cs = trimChars cs)
  have something : trimChars cs ≠ [] := fun nothing => by
    obtain ⟨c, mem, visible⟩ := seen
    exact Bool.eq_false_iff.1 visible (trimChars_eq_nil_iff.1 nothing c mem)
  obtain visible | ⟨word, c, rest, blank, visible, cut⟩ := visible_or_exists_blank (trimChars cs)
  · refine ⟨⟨String.ofList (trimChars cs), none⟩, front, back, ?_⟩
    rw [String.toList_ofList]
    exact ⟨whole, before, mt String.ofList_eq_empty_iff.1 something, visible,
      fun c first => behind c (List.mem_of_head? first), behind⟩
  · have some_word : word ≠ [] := fun none => by
      rw [cut, none] at trimmed
      exact Bool.eq_false_iff.1 (trimmed.1 c rfl) blank
    obtain ⟨part, follows⟩ := exists_follows (c :: rest ++ back)
    refine ⟨⟨String.ofList word, part⟩, front, c :: rest ++ back, ?_⟩
    rw [String.toList_ofList]
    refine ⟨?_, before, mt String.ofList_eq_empty_iff.1 some_word, visible, fun d first => ?_,
      follows⟩
    · rw [whole, cut]
      simp only [List.append_assoc]
    · rwa [← Option.some.inj first]

/-- What a text spells is what is read from it. -/
theorem parse_of_spells (spells : Spells text.toList p) : parse text = .ok p := by
  obtain ⟨name, part⟩ := p
  obtain ⟨before, rest, whole, blank, some_name, visible, opens, follows⟩ := spells
  have word : named name = .ok ⟨name, none⟩ := named_of_visible some_name visible
  cases part with
  | none =>
    have trimmed : trimChars text.toList = name.toList :=
      trimChars_eq_iff.2 ⟨before, rest, blank, follows, whole, trimmed_of_visible visible⟩
    simp only [parse, trimmed, cutAtBlank_of_visible visible, String.ofList_toList, word]
  | some part =>
    obtain ⟨some_part, partTrimmed, gap, back, gapBlank, backBlank, rfl⟩ := follows
    have chars : part.toList ≠ [] := mt String.toList_eq_nil_iff.1 some_part
    -- The section does not begin with a blank, so it is the gap that ends the name.
    have some_gap : gap ≠ [] := fun none => by
      obtain ⟨c, others, same⟩ := List.exists_cons_of_ne_nil chars
      rw [none, same] at opens
      have seen : isBlank c = false := partTrimmed.1 c (by rw [same]; rfl)
      exact Bool.eq_false_iff.1 seen (opens c rfl)
    obtain ⟨c, gap, rfl⟩ := List.exists_cons_of_ne_nil some_gap
    have trimmed : trimChars text.toList = name.toList ++ c :: (gap ++ part.toList) := by
      refine trimChars_eq_iff.2 ⟨before, back, blank, backBlank, ?_, ?_⟩
      · rw [whole]
        simp only [List.append_assoc, List.cons_append]
      · have joined := (trimmed_of_visible visible).append partTrimmed
          (mt String.toList_eq_nil_iff.1 some_name) chars (c :: gap)
        rwa [List.append_assoc] at joined
    obtain ⟨first, others⟩ := List.forall_mem_cons.1 gapBlank
    have kept : trimChars (gap ++ part.toList) = part.toList :=
      trimChars_eq_iff.2 ⟨gap, [], others, nofun, (List.append_nil _).symm, partTrimmed⟩
    simp only [parse, trimmed, cutAtBlank_append visible first, String.ofList_toList, word, kept]

/-- Blanks alone name no position. -/
theorem parse_of_blank (blank : ∀ c ∈ text.toList, isBlank c = true) :
    parse text = .error (.badPosition "") := by
  simp only [parse, trimChars_eq_nil_iff.2 blank]
  rfl

/-- A text is read as the position that it names. -/
theorem parse_eq_ok_iff : parse text = .ok p ↔ Spells text.toList p := by
  refine ⟨fun read => ?_, parse_of_spells⟩
  obtain seen | blank := visible_or_blank text.toList
  · obtain ⟨q, spells⟩ := exists_spells seen
    rw [parse_of_spells spells] at read
    exact Except.ok.inj read ▸ spells
  · rw [parse_of_blank blank] at read
    contradiction

/-- The only texts that are refused are those of blanks alone, and the violation does not quote
them. -/
theorem parse_eq_error_iff :
    parse text = .error v ↔ v = .badPosition "" ∧ ∀ c ∈ text.toList, isBlank c = true := by
  constructor
  · intro refused
    obtain seen | blank := visible_or_blank text.toList
    · obtain ⟨q, spells⟩ := exists_spells seen
      rw [parse_of_spells spells] at refused
      contradiction
    · rw [parse_of_blank blank] at refused
      exact ⟨(Except.error.inj refused).symm, blank⟩
  · rintro ⟨rfl, blank⟩
    exact parse_of_blank blank

/-- What is cut off as a name is one: it is neither empty nor has it blanks around it. -/
theorem named_of_cutAtBlank {word : List Char}
    (cut : cutAtBlank (trimChars cs) = some (word, rest)) :
    named (String.ofList word) = .ok ⟨String.ofList word, none⟩ := by
  obtain ⟨c, blank, visible, whole⟩ := cutAtBlank_eq_some_iff.1 cut
  have some_word : word ≠ [] := fun none => by
    have trimmed := trimmed_trimChars cs
    rw [whole, none] at trimmed
    exact Bool.eq_false_iff.1 (trimmed.1 c rfl) blank
  rw [← String.toList_ofList (l := word)] at visible
  exact named_of_visible (mt String.ofList_eq_empty_iff.1 some_word) visible

/-! ## From positions to texts -/

/-- The text that shows a position which some text names is another such text. -/
theorem Spells.shown (spells : Spells cs p) : Spells p.text.toList p := by
  obtain ⟨name, part⟩ := p
  obtain ⟨-, _, -, -, some_name, visible, -, follows⟩ := spells
  cases part with
  | none => exact ⟨[], [], (List.append_nil _).symm, nofun, some_name, visible, nofun, nofun⟩
  | some part =>
    obtain ⟨some_part, trimmed, -⟩ := follows
    have space : isBlank ' ' = true := by decide
    refine ⟨[], ' ' :: part.toList, ?_, nofun, some_name, visible, ?_, some_part, trimmed, [' '],
      [], ?_, nofun, (List.append_nil _).symm⟩
    · show (name ++ " " ++ part).toList = _
      rw [String.toList_append, String.toList_append, List.append_assoc]
      rfl
    · intro c first
      rwa [← Option.some.inj first]
    · exact List.forall_mem_singleton.2 space

/-- A position that was read is read again from the text that shows it. -/
theorem parse_text (read : parse text = .ok p) : parse p.text = .ok p :=
  parse_of_spells (parse_eq_ok_iff.1 read).shown

/-- Reading finds the position that a text names, in every text in which something is visible, and
the name that it cuts off is never refused. A text of blanks alone is refused as the empty text. A
position that was read is read again from the text that shows it, so two texts are read as one
position just if their positions are shown alike. -/
theorem parse_normal (text : String) :
    ((∃ p, parse text = .ok p) ↔ ∃ c ∈ text.toList, isBlank c = false) ∧
    (∀ v, parse text = .error v → v = .badPosition "") ∧
    (∀ p, parse text = .ok p ↔ Spells text.toList p) ∧
    (∀ word rest, cutAtBlank (trimChars text.toList) = some (word, rest) →
      named (String.ofList word) = .ok ⟨String.ofList word, none⟩) ∧
    (∀ p, parse text = .ok p → parse p.text = .ok p) ∧
    ∀ other p q, parse text = .ok p → parse other = .ok q → (p = q ↔ p.text = q.text) := by
  refine ⟨⟨?_, ?_⟩, ?_, fun p => parse_eq_ok_iff, ?_, fun p => parse_text, ?_⟩
  · rintro ⟨p, read⟩
    obtain seen | blank := visible_or_blank text.toList
    · exact seen
    · rw [parse_of_blank blank] at read
      contradiction
  · intro seen
    obtain ⟨p, spells⟩ := exists_spells seen
    exact ⟨p, parse_of_spells spells⟩
  · intro v refused
    exact (parse_eq_error_iff.1 refused).1
  · intro word rest cut
    exact named_of_cutAtBlank cut
  · intro other p q first second
    refine ⟨fun same => congrArg Position.text same, fun shown => ?_⟩
    have read : parse p.text = .ok q := shown ▸ parse_text second
    rw [parse_text first] at read
    exact Except.ok.inj read

example : parse "\u2003 3a \t\u00a0 D - F \n" = .ok ⟨"3a", some "D - F"⟩ := by cbv

end Itinerary.Position
