import Itinerary.Proofs.Decimal.Digits
import Itinerary.Proofs.Place.Likeness

/-!
# What an identity tells

Places are compared by the text that they are recognised by. The text of a coordinate tells the
coordinate (`Point.text_injective`) and is never empty, and neither is an id, so the text tells
which id or which coordinate it is (`Location.identity_eq_iff`). It does not tell which of the two:
ids are whatever a backend takes for one, and an id may be written like a coordinate. A place with
that id is then compared as equal to the bare coordinate (`Location.IsNamedAfter`).

The text of a place with neither id nor coordinate is empty. Such a place is never compared as equal
to one that has either; nothing is said here about two such places.
-/

namespace Itinerary

/-! ## Texts of coordinates -/

namespace Point

theorem comma_not_mem_microChars (e6 : Int) : ',' ∉ microChars e6 := by
  have body : ',' ∉ Decimal.pointed 6 e6.natAbs := by
    intro mem
    rcases Decimal.mem_pointed mem with point | digit
    · exact absurd point (by decide)
    · exact absurd digit (by decide)
  unfold microChars
  simp only
  split
  · intro mem
    rcases List.mem_cons.1 mem with sign | mem
    · exact absurd sign (by decide)
    · exact body mem
  · exact body

/-- Millionths of a degree are seen from the digits, and their sign from the sign. -/
theorem microChars_injective {a b : Int} (same : microChars a = microChars b) : a = b := by
  unfold microChars at same
  simp only at same
  split at same
  · split at same
    · have := Decimal.pointed_injective (List.cons.inj same).2
      omega
    · exact absurd same (Decimal.minus_cons_ne_digits_append _ _)
  · split at same
    · exact absurd same.symm (Decimal.minus_cons_ne_digits_append _ _)
    · have := Decimal.pointed_injective same
      omega

theorem text_injective {p q : Point} (same : p.text = q.text) : p = q := by
  obtain ⟨lat, lon⟩ := Text.append_cons_inj (comma_not_mem_microChars _)
    (comma_not_mem_microChars _) (String.ofList_inj.1 same)
  cases p
  cases q
  rw [mk.injEq]
  exact ⟨Int32.toInt_inj.1 (microChars_injective lat), Int32.toInt_inj.1 (microChars_injective lon)⟩

theorem text_ne_empty (p : Point) : p.text ≠ "" := by
  intro same
  have comma : ',' ∈ p.text.toList := by
    rw [text, String.toList_ofList]
    exact List.mem_append_right _ List.mem_cons_self
  rw [same] at comma
  exact nomatch comma

end Point

/-! ## Places -/

namespace Location

variable {a b : Location} {id : String} {p : Point}

/-- Two places with the same id, or two without one at the same coordinate. -/
inductive SamePlace (a b : Location) : Prop
  | byId {id : String} (left : a.properId = some id) (right : b.properId = some id)
  | byCoord {p : Point} (anonymous : a.properId = none) (anonymous' : b.properId = none)
      (left : a.coord = some p) (right : b.coord = some p)

/-- A place with an id that is written like the coordinate of another place, which has no id. -/
def IsNamedAfter (a b : Location) : Prop :=
  ∃ p, a.properId = some p.text ∧ b.properId = none ∧ b.coord = some p

/-- Two places that are compared as equal, as far as either of them can be recognised: they are the
same place, or one of them is named after the coordinate of the other. A place that can be
recognised does not meet one that cannot. -/
structure Meets (a b : Location) : Prop where
  isIdentified_eq : a.isIdentified = b.isIdentified
  place : a.isIdentified = true → a.SamePlace b ∨ a.IsNamedAfter b ∨ b.IsNamedAfter a

theorem ne_empty_of_properId (h : a.properId = some id) : id ≠ "" := (properId_eq_some_iff.1 h).1

/-- The three kinds of identities. -/
theorem identity_cases (a : Location) :
    (∃ id, a.properId = some id ∧ a.identity = id ∧ a.isIdentified = true) ∨
      (∃ p, a.properId = none ∧ a.coord = some p ∧ a.identity = p.text ∧ a.isIdentified = true) ∨
      (a.properId = none ∧ a.coord = none ∧ a.identity = "" ∧ a.isIdentified = false) := by
  unfold identity isIdentified hasId hasCoord
  cases named : a.properId with
  | some id => exact .inl ⟨id, rfl, rfl, rfl⟩
  | none =>
    cases here : a.coord with
    | some p => exact .inr (.inl ⟨p, rfl, rfl, rfl, rfl⟩)
    | none => exact .inr (.inr ⟨rfl, rfl, rfl, rfl⟩)

/-- The identity is empty just for a place that cannot be recognised. -/
theorem identity_eq_empty_iff (a : Location) : a.identity = "" ↔ a.isIdentified = false := by
  rcases a.identity_cases with ⟨id, named, same, known⟩ | ⟨p, -, -, same, known⟩ |
    ⟨-, -, same, unknown⟩
  · rw [same, known]
    exact iff_of_false (ne_empty_of_properId named) nofun
  · rw [same, known]
    exact iff_of_false p.text_ne_empty nofun
  · rw [same, unknown]
    exact iff_of_true rfl rfl

/-- The same place has the same identity, by its id or by its coordinate. -/
theorem SamePlace.identity_eq (same : a.SamePlace b) : a.identity = b.identity := by
  cases same with
  | byId left right => rw [identity, identity, left, right]
  | byCoord anonymous anonymous' left right =>
    rw [identity, identity, anonymous, anonymous', left, right]

/-- A place that is named after a coordinate has the identity of the place there. -/
theorem IsNamedAfter.identity_eq (named : a.IsNamedAfter b) : a.identity = b.identity := by
  obtain ⟨p, left, anonymous, right⟩ := named
  rw [identity, identity, left, anonymous, right]

/-- Two places with the same text, of which one can be recognised: an id against an id, a coordinate
against a coordinate, or an id against a coordinate. -/
theorem meets_of_identity_eq (same : a.identity = b.identity) : a.Meets b := by
  have alike : a.isIdentified = b.isIdentified := by
    rw [Bool.eq_iff_iff, ← Bool.not_eq_false, ← Bool.not_eq_false, ← identity_eq_empty_iff,
      ← identity_eq_empty_iff, same]
  refine ⟨alike, fun known => ?_⟩
  rcases a.identity_cases with ⟨id, named, text, -⟩ | ⟨p, anonymous, here, text, -⟩ |
    ⟨-, -, -, unknown⟩
  · rcases b.identity_cases with ⟨id', named', text', -⟩ | ⟨q, anonymous', here', text', -⟩ |
      ⟨-, -, -, unknown⟩
    · obtain rfl : id = id' := text.symm.trans (same.trans text')
      exact .inl (.byId named named')
    · obtain rfl : id = q.text := text.symm.trans (same.trans text')
      exact .inr (.inl ⟨q, named, anonymous', here'⟩)
    · exact nomatch (alike.symm.trans known).symm.trans unknown
  · rcases b.identity_cases with ⟨id', named', text', -⟩ | ⟨q, anonymous', here', text', -⟩ |
      ⟨-, -, -, unknown⟩
    · obtain rfl : p.text = id' := text.symm.trans (same.trans text')
      exact .inr (.inr ⟨p, named', anonymous, here⟩)
    · obtain rfl : p = q := Point.text_injective (text.symm.trans (same.trans text'))
      exact .inl (.byCoord anonymous anonymous' here here')
    · exact nomatch (alike.symm.trans known).symm.trans unknown
  · exact nomatch known.symm.trans unknown

/-- Places are compared as equal just if they meet. -/
theorem identity_eq_iff : a.identity = b.identity ↔ a.Meets b := by
  refine ⟨meets_of_identity_eq, fun meets => ?_⟩
  cases known : a.isIdentified with
  | true =>
    rcases meets.place known with same | named | named
    · exact same.identity_eq
    · exact named.identity_eq
    · exact named.identity_eq.symm
  | false =>
    rw [(identity_eq_empty_iff a).2 known,
      (identity_eq_empty_iff b).2 (meets.isIdentified_eq ▸ known)]

end Location

end Itinerary
