import Itinerary.Text.Casing
import Mathlib.Data.List.Infix

/-!
# Lower case of a text inside another one

The form of a character does not depend on what stands around it, unless it is a capital sigma. The
form of a sigma depends on the nearest characters that count on its two sides, and of them only on
whether they are cased (`nearest`). So a text has one lower case inside another one and by itself
just if its sigmas have (`lowerBetween_eq_iff`).

Often what a text says around its own sigmas settles their forms, whatever stands around the text
(`Settles`). Where it does not, there are surroundings in which the text is lost: the lower case of
the longer text does not hold that of the shorter one anywhere (`exists_lost`), since a form that
the sigma has by itself occurs once less often there.
-/

namespace Itinerary.Text

variable {before before' after after' front cs : List Char} {c : Char}

/-! ## A text between two others -/

/-- Whether a sigma ends a word between two texts, the nearest characters first. -/
def endsWord (before after : List Char) : Bool := startsCased before && !startsCased after

/-- The lower-case form of a character between two texts, the nearest characters first. -/
def formBetween (before : List Char) (c : Char) (after : List Char) : List Char :=
  if c = 'Σ' then if endsWord before after then ['ς'] else ['σ'] else lowerChar c

/-- Lower-cases a text between two others, the nearest characters first. -/
def lowerBetween (before after : List Char) : List Char → List Char
  | [] => []
  | c :: rest => formBetween before c (rest ++ after) ++ lowerBetween (c :: before) after rest

/-- With nothing behind it, a text is lower-cased as the end of a longer one. -/
theorem lowerBetween_nil (before cs : List Char) :
    lowerBetween before [] cs = lowerFrom before cs := by
  induction cs generalizing before with
  | nil => rfl
  | cons c rest ih =>
    rw [lowerBetween, lowerFrom, ih, List.append_nil]
    rfl

/-- A text in two parts: each of them stands between what is around the text and the other part. -/
theorem lowerBetween_append (before a b after : List Char) :
    lowerBetween before after (a ++ b) =
      lowerBetween before (b ++ after) a ++ lowerBetween (a.reverse ++ before) after b := by
  induction a generalizing before with
  | nil => rfl
  | cons c rest ih =>
    simp only [List.cons_append, lowerBetween, ih, List.append_assoc, List.reverse_cons,
      List.nil_append]

/-! ## Forms of sigmas -/

/-- What holds of every capital sigma, seen between what stands in front of it and behind it, the
nearest characters first. -/
def AtSigmas (P : List Char → List Char → Prop) : List Char → List Char → Prop
  | _, [] => True
  | front, c :: rest => (c = 'Σ' → P front rest) ∧ AtSigmas P (c :: front) rest

instance decidableAtSigmas {P : List Char → List Char → Prop} [DecidableRel P] :
    ∀ front cs, Decidable (AtSigmas P front cs)
  | _, [] => isTrue trivial
  | front, c :: rest =>
    have : Decidable (AtSigmas P (c :: front) rest) := decidableAtSigmas (c :: front) rest
    inferInstanceAs (Decidable ((c = 'Σ' → P front rest) ∧ AtSigmas P (c :: front) rest))

/-- The capital sigmas of a text one by one, each with what is in front of it and behind it. -/
theorem atSigmas_iff {P : List Char → List Char → Prop} :
    AtSigmas P front cs ↔ ∀ u v, cs = u ++ 'Σ' :: v → P (u.reverse ++ front) v := by
  induction cs generalizing front with
  | nil => simp [AtSigmas]
  | cons c rest ih =>
    rw [AtSigmas, ih]
    constructor
    · rintro ⟨here, later⟩ u v same
      cases u with
      | nil =>
        obtain ⟨rfl, rfl⟩ := List.cons.inj same
        exact here rfl
      | cons d u =>
        obtain ⟨rfl, tail⟩ := List.cons.inj same
        simpa using later u v tail
    · intro each
      refine ⟨?_, ?_⟩
      · rintro rfl
        exact each [] rest rfl
      · intro u v same
        simpa using each (c :: u) v (by rw [same, List.cons_append])

/-- The sigmas of a text have the forms between two others that they have by themselves. -/
def KeepsForms (before after : List Char) : List Char → Prop :=
  AtSigmas (fun u v => endsWord (u ++ before) (v ++ after) = endsWord u v) []

instance (before after cs : List Char) : Decidable (KeepsForms before after cs) :=
  decidableAtSigmas [] cs

/-- The form of a character depends on its surroundings only for a sigma, and then on whether that
ends a word. -/
theorem formBetween_eq_iff :
    formBetween before c after = formBetween before' c after' ↔
      (c = 'Σ' → endsWord before after = endsWord before' after') := by
  unfold formBetween
  by_cases sigma : c = 'Σ'
  · simp only [sigma, if_true, forall_const]
    cases endsWord before after <;> cases endsWord before' after' <;> simp
  · simp [sigma]

/-- All forms of a character take equally many characters. -/
theorem length_formBetween :
    (formBetween before c after).length = (formBetween before' c after').length := by
  unfold formBetween
  by_cases sigma : c = 'Σ'
  · simp only [sigma, if_true]
    split <;> split <;> rfl
  · simp [sigma]

/-- A text has one lower case between two others and by itself if its sigmas have one form each, and
only then. -/
theorem lowerBetween_eq_iff :
    lowerBetween (front ++ before) after cs = lowerBetween front [] cs ↔
      AtSigmas (fun u v => endsWord (u ++ before) (v ++ after) = endsWord u v) front cs := by
  induction cs generalizing front with
  | nil => simp [lowerBetween, AtSigmas]
  | cons c rest ih =>
    rw [lowerBetween, lowerBetween, AtSigmas, ← ih, List.append_nil, ← formBetween_eq_iff]
    constructor
    · intro same
      exact List.append_inj same length_formBetween
    · rintro ⟨form, tail⟩
      rw [form]
      exact congrArg _ tail

/-! ## What settles a form -/

/-- Whether the nearest character that counts for a sigma is cased, if there is one. -/
def nearest (cs : List Char) : Option Bool :=
  (cs.dropWhile fun c => inRanges caseIgnorableRanges c.toNat).head?.map
    fun c => inRanges casedRanges c.toNat

/-- What stands behind a sigma starts with a cased letter if the nearest character that counts is
one. -/
theorem startsCased_iff : startsCased cs = true ↔ nearest cs = some true := by
  unfold startsCased nearest
  cases cs.dropWhile fun c => inRanges caseIgnorableRanges c.toNat <;> simp

/-- A sigma ends a word if the nearest character in front counts as cased and the one behind does
not. -/
theorem endsWord_eq (before after : List Char) :
    endsWord before after = (nearest before == some true && nearest after != some true) := by
  have starts (cs : List Char) : startsCased cs = (nearest cs == some true) := by
    rw [Bool.eq_iff_iff, startsCased_iff, beq_iff_eq]
  rw [endsWord, starts, starts]
  rfl

/-- The nearest character that counts stands in the first part, unless nothing counts there. -/
theorem nearest_append (a b : List Char) : nearest (a ++ b) = (nearest a <|> nearest b) := by
  unfold nearest
  rw [List.dropWhile_append]
  cases a.dropWhile fun c => inRanges caseIgnorableRanges c.toNat <;> simp

/-- A capital sigma counts itself, and it is cased. -/
theorem nearest_sigma (cs : List Char) : nearest ('Σ' :: cs) = some true := by
  have counts : inRanges caseIgnorableRanges 'Σ'.toNat = false := by decide +kernel
  have cased : inRanges casedRanges 'Σ'.toNat = true := by decide +kernel
  simp only [nearest, List.dropWhile_cons, counts, Bool.false_eq_true, if_false, List.head?_cons,
    Option.map_some, cased]

/-- Where nothing counts, there is no sigma. -/
theorem sigma_not_mem_of_nearest (none : nearest cs = none) : 'Σ' ∉ cs := by
  intro mem
  obtain ⟨u, v, rfl⟩ := List.append_of_mem mem
  rw [nearest_append, nearest_sigma] at none
  cases same : nearest u <;> simp [same] at none

/-- The form of a sigma between these is the same wherever they stand: a cased character behind it
or an uncased one in front of it makes it a medial one, and a cased one in front with an uncased one
behind makes it a final one. -/
def Settles (before after : List Char) : Prop :=
  nearest after = some true ∨ nearest before = some false ∨
    nearest before = some true ∧ nearest after = some false

instance : DecidableRel Settles := fun before after =>
  inferInstanceAs (Decidable (nearest after = some true ∨ nearest before = some false ∨
    nearest before = some true ∧ nearest after = some false))

/-- What settles a form is not changed by what stands farther away. -/
theorem Settles.endsWord_append (settles : Settles before after) (more more' : List Char) :
    endsWord (before ++ more) (after ++ more') = endsWord before after := by
  simp only [endsWord_eq, nearest_append]
  rcases settles with behind | front | ⟨front, behind⟩
  · simp [behind]
  · simp [front]
  · simp [front, behind]

/-- A text whose own characters settle the forms of its sigmas. -/
def Settled (cs : List Char) : Prop := AtSigmas Settles [] cs

instance (cs : List Char) : Decidable (Settled cs) := decidableAtSigmas [] cs

/-- A settled text keeps its forms wherever it stands. -/
theorem Settled.keepsForms (settled : Settled cs) (before after : List Char) :
    KeepsForms before after cs := by
  rw [KeepsForms, atSigmas_iff]
  intro u v same
  exact (atSigmas_iff.1 settled u v same).endsWord_append before after

/-! ## Texts that are lost -/

/-- Without a sigma, a text has one lower case everywhere. -/
theorem lowerBetween_of_sigma_not_mem (without : 'Σ' ∉ cs) :
    lowerBetween before after cs = cs.flatMap lowerChar := by
  induction cs generalizing before with
  | nil => rfl
  | cons c rest ih =>
    have plain : c ≠ 'Σ' := fun same => without (by simp [same])
    rw [lowerBetween, formBetween, if_neg plain, List.flatMap_cons,
      ih fun mem => without (List.mem_cons_of_mem c mem)]

/-- Of what stands around a text, only the nearest characters that count matter. -/
theorem lowerBetween_congr (front : nearest before = nearest before')
    (behind : nearest after = nearest after') :
    lowerBetween before after cs = lowerBetween before' after' cs := by
  induction cs generalizing before before' with
  | nil => rfl
  | cons c rest ih =>
    have form : formBetween before c (rest ++ after) = formBetween before' c (rest ++ after') := by
      apply formBetween_eq_iff.2
      intro _
      simp only [endsWord_eq, nearest_append, front, behind]
    have next : nearest (c :: before) = nearest (c :: before') := by
      rw [← List.singleton_append, nearest_append, front, ← nearest_append]
      rfl
    rw [lowerBetween, lowerBetween, form, ih next]

/-- The form of one sigma, between the lower case of what stands in front of it and behind it. -/
theorem lowerBetween_sigma (before u v after : List Char) :
    lowerBetween before after (u ++ 'Σ' :: v) =
      lowerBetween before ('Σ' :: v ++ after) u ++
        (formBetween (u.reverse ++ before) 'Σ' (v ++ after) ++
          lowerBetween ('Σ' :: (u.reverse ++ before)) after v) := by
  rw [lowerBetween_append, lowerBetween]

/-- A list is not part of one that has an item of it less often. -/
theorem not_infix_of_swapped {u v x y : List Char} {c d : Char} (ne : c ≠ d) (front : c ∉ x)
    (behind : c ∉ y) : ¬ (u ++ ([c] ++ v)) <:+: (x ++ (u ++ ([d] ++ v)) ++ y) := by
  intro part
  have count := part.sublist.count_le c
  have swapped : c ∉ [d] := fun mem => ne (List.mem_singleton.1 mem)
  simp only [List.count_append, List.count_singleton_self, List.count_eq_zero_of_not_mem front,
    List.count_eq_zero_of_not_mem behind, List.count_eq_zero_of_not_mem swapped] at count
  omega

theorem lowerBetween_capital : lowerBetween before after ['A'] = ['a'] := rfl

theorem nearest_capital : nearest ['A'] = some true := by decide +kernel

/-- A sigma that is final by itself and medial in front of a letter. -/
theorem lost_in_front_of_letter {u v : List Char} (front : nearest u.reverse = some true)
    (behind : nearest v = none) :
    ¬ lowerFrom [] (u ++ 'Σ' :: v) <:+: lowerFrom [] (u ++ 'Σ' :: v ++ ['A']) := by
  have form : formBetween u.reverse 'Σ' v = ['ς'] := by
    simp [formBetween, endsWord_eq, front, behind]
  have form' : formBetween u.reverse 'Σ' (v ++ ['A']) = ['σ'] := by
    simp [formBetween, endsWord_eq, front, behind, nearest_append, nearest_capital]
  have without := sigma_not_mem_of_nearest behind
  have before : lowerBetween [] ('Σ' :: v ++ ['A']) u = lowerBetween [] ('Σ' :: v) u :=
    lowerBetween_congr rfl (by rw [List.cons_append, nearest_sigma, nearest_sigma])
  have alone : lowerFrom [] (u ++ 'Σ' :: v) =
      lowerBetween [] ('Σ' :: v) u ++ (['ς'] ++ v.flatMap lowerChar) := by
    rw [← lowerBetween_nil, lowerBetween_sigma]
    simp only [List.append_nil, form, lowerBetween_of_sigma_not_mem without]
  have within : lowerFrom [] (u ++ 'Σ' :: v ++ ['A']) =
      [] ++ (lowerBetween [] ('Σ' :: v) u ++ (['σ'] ++ v.flatMap lowerChar)) ++ ['a'] := by
    rw [← lowerBetween_nil, lowerBetween_append, lowerBetween_capital, lowerBetween_sigma]
    simp only [List.append_nil, List.nil_append, form', before,
      lowerBetween_of_sigma_not_mem without]
  rw [alone, within]
  exact not_infix_of_swapped (by decide) (by simp) (by simp)

/-- A sigma that is medial by itself and final behind a letter. -/
theorem lost_behind_letter {u v : List Char} (front : nearest u.reverse = none)
    (behind : nearest v ≠ some true) :
    ¬ lowerFrom [] (u ++ 'Σ' :: v) <:+: lowerFrom [] (['A'] ++ (u ++ 'Σ' :: v)) := by
  have form : formBetween u.reverse 'Σ' v = ['σ'] := by
    simp [formBetween, endsWord_eq, front]
  have form' : formBetween (u.reverse ++ ['A']) 'Σ' v = ['ς'] := by
    simp [formBetween, endsWord_eq, front, behind, nearest_append, nearest_capital]
  have without : 'Σ' ∉ u := fun mem =>
    sigma_not_mem_of_nearest front (List.mem_reverse.2 mem)
  have after : lowerBetween ('Σ' :: (u.reverse ++ ['A'])) [] v =
      lowerBetween ('Σ' :: u.reverse) [] v :=
    lowerBetween_congr (by rw [nearest_sigma, nearest_sigma]) rfl
  have alone : lowerFrom [] (u ++ 'Σ' :: v) =
      u.flatMap lowerChar ++ (['σ'] ++ lowerBetween ('Σ' :: u.reverse) [] v) := by
    rw [← lowerBetween_nil, lowerBetween_sigma]
    simp only [List.append_nil, form, lowerBetween_of_sigma_not_mem without]
  have within : lowerFrom [] (['A'] ++ (u ++ 'Σ' :: v)) =
      ['a'] ++ (u.flatMap lowerChar ++ (['ς'] ++ lowerBetween ('Σ' :: u.reverse) [] v)) ++ [] := by
    rw [← lowerBetween_nil, lowerBetween_append, lowerBetween_capital, lowerBetween_sigma]
    simp only [List.append_nil, List.reverse_singleton, form', after,
      lowerBetween_of_sigma_not_mem without]
  rw [alone, within]
  exact not_infix_of_swapped (by decide) (by decide) (by simp)

/-- A text that does not settle its sigmas is lost inside some longer one. -/
theorem exists_lost (unsettled : ¬ Settled cs) :
    ∃ before after, ¬ lowerFrom [] cs <:+: lowerFrom [] (before ++ cs ++ after) := by
  rw [Settled, atSigmas_iff] at unsettled
  push Not at unsettled
  obtain ⟨u, v, rfl, unsettled⟩ := unsettled
  rw [List.append_nil, Settles] at unsettled
  cases front : nearest u.reverse with
  | none =>
    have lost := lost_behind_letter front fun cased => unsettled (.inl cased)
    exact ⟨['A'], [], by rwa [List.append_nil]⟩
  | some cased =>
    cases behind : nearest v with
    | none =>
      cases cased with
      | true => exact ⟨[], ['A'], lost_in_front_of_letter front behind⟩
      | false => simp [front] at unsettled
    | some cased' =>
      cases cased <;> cases cased' <;> simp [front, behind] at unsettled

end Itinerary.Text
