import Itinerary.Proofs.Json.ReadBack

/-!
# What a reader can give

A reader gives values with a property when nothing it accepts lacks the property
(`Reader.Gives`), and so does the description of a record (`Fields.Gives`). For a record the
property may depend on one field alone: what is known of that field when it is read is known of it
when the record is put together, in whatever order the fields came, and also where the record came
as an array.
-/

namespace Itinerary.Json

variable {α β : Type}

/-- What comes out of a changed answer came from an answer. -/
theorem exists_of_map_eq_ok {answer : Except Fault α} {f : α → β} {b : β}
    (given : answer.map f = .ok b) : ∃ a, answer = .ok a ∧ f a = b := by
  cases answer with
  | error fault => contradiction
  | ok a => exact ⟨a, rfl, Except.ok.inj given⟩

/-- Whatever a reader accepts comes out with a property. -/
def Reader.Gives (read : Reader α) (P : α → Prop) : Prop :=
  ∀ mode source a, read mode source = .ok a → P a

namespace Reader.Gives

/-- What holds of everything that `f` makes holds of everything that is read and put through `f`. -/
theorem map {read : Reader α} {f : α → β} {P : β → Prop} (each : ∀ a, P (f a)) :
    (read.map f).Gives P := by
  intro mode source b given
  obtain ⟨a, -, rfl⟩ := exists_of_map_eq_ok given
  exact each a

/-- A weaker property of what a reader gives. -/
theorem mono {read : Reader α} {P Q : α → Prop} (gives : read.Gives P) (each : ∀ a, P a → Q a) :
    read.Gives Q :=
  fun mode source a given => each a (gives mode source a given)

/-- What holds of everything that a reader gives holds of what it gives for a whole document. -/
theorem document {read : Reader α} {P : α → Prop} (gives : read.Gives P) {source : Source}
    {ended : Bool} {a : α} (given : read.document source ended = .ok a) : P a := by
  rw [Reader.document] at given
  cases answer : read .streamed source with
  | error fault =>
    rw [answer] at given
    contradiction
  | ok b =>
    rw [answer] at given
    cases ended with
    | false => contradiction
    | true =>
      obtain rfl : b = a := Except.ok.inj given
      exact gives _ _ _ answer

end Reader.Gives

namespace Fields

/-- Whatever a description puts together has a property: something holds of the fields known so
far that is true at the start, that every further field keeps, and that suffices at the end. -/
structure Gives (fields : Fields α) (P : α → Prop) : Prop where
  fromObject : ∃ known : fields.Slots → Prop, known fields.empty ∧
    (∀ mode slots name source slots', known slots →
      fields.accept mode slots name source = some (.ok slots') → known slots') ∧
    ∀ slots a, known slots → fields.collect slots = .ok a → P a
  fromArray : ∀ mode sources closed a rest, fields.take mode sources closed = .ok (a, rest) → P a

namespace Gives

/-- What every further field keeps holds after the fields of a whole object. -/
theorem fold {fields : Fields α} {known : fields.Slots → Prop}
    (keeps : ∀ mode slots name source slots', known slots →
      fields.accept mode slots name source = some (.ok slots') → known slots')
    {mode : Mode} {entries : List (Option String × Source)} {slots slots' : fields.Slots}
    (start : known slots) (given : fields.fold mode slots entries = .ok slots') :
    known slots' := by
  induction entries generalizing slots with
  | nil =>
    obtain rfl : slots = slots' := Except.ok.inj given
    exact start
  | cons entry entries ih =>
    obtain ⟨name, source⟩ := entry
    cases name with
    | none => contradiction
    | some name =>
      rw [Fields.fold] at given
      split at given
      · rename_i next taken
        exact ih (keeps _ _ _ _ _ start taken) given
      · contradiction
      · split at given
        · exact ih start given
        · contradiction

/-- A record gives what its description puts together, from an object and from an array alike. -/
theorem record {fields : Fields α} {P : α → Prop} (gives : fields.Gives P) :
    (Reader.record fields).Gives P := by
  obtain ⟨⟨known, start, keeps, ends⟩, fromArray⟩ := gives
  intro mode source a given
  cases source with
  | obj entries closed =>
    rw [Reader.record] at given
    split at given
    · contradiction
    · rename_i slots folded
      split at given
      · exact ends slots a (fold keeps start folded) given
      · contradiction
  | arr sources closed =>
    rw [Reader.record] at given
    split at given
    · contradiction
    · rename_i b rest taken
      split at given
      · obtain rfl : b = a := Except.ok.inj given
        exact fromArray _ _ _ _ _ taken
      · contradiction
  | _ => contradiction

/-- A property of all values is one of those that are read. -/
theorem of_forall {fields : Fields α} {P : α → Prop} (all : ∀ a, P a) : fields.Gives P where
  fromObject :=
    ⟨fun _ => True, trivial, fun _ _ _ _ _ _ _ => trivial, fun _ a _ _ => all a⟩
  fromArray := fun _ _ _ a _ _ => all a

/-- One field gives what its reader gives, or what stands in for it when it is missing. -/
theorem field {name : String} {read : Reader α} {missing leftOut : Except Fault α}
    {P : α → Prop} (gives : read.Gives P) (absent : ∀ a, missing = .ok a → P a)
    (short : ∀ a, leftOut = .ok a → P a) : (Fields.field name read missing leftOut).Gives P where
  fromObject := by
    -- What is in the slot has the property; a second part under the name is refused.
    refine ⟨fun (slot : Option α) => ∀ a ∈ slot, P a, fun _ mem => (nomatch mem), ?_, ?_⟩
    · intro mode slot key source slot' _ taken a mem
      by_cases own : key = name
      · subst own
        cases slot with
        | some b =>
          have answer : (if key = key then some (Except.error Fault.mismatch) else none) =
              some (.ok slot') := taken
          rw [if_pos rfl] at answer
          cases answer
        | none =>
          have answer : (if key = key then some ((read mode source).map some) else none) =
              some (.ok slot') := taken
          rw [if_pos rfl] at answer
          obtain ⟨b, found, rfl⟩ := exists_of_map_eq_ok (Option.some.inj answer)
          obtain rfl : b = a := Option.some.inj mem
          exact gives mode source b found
      · have ignored : (Fields.field name read missing leftOut).accept mode slot key source =
            none := if_neg own
        rw [ignored] at taken
        contradiction
    · intro slot a known given
      cases slot with
      | none => exact absent a given
      | some b =>
        obtain rfl : b = a := Except.ok.inj given
        exact known b rfl
  fromArray := by
    intro mode sources closed a rest given
    cases sources with
    | cons source others =>
      obtain ⟨b, found, same⟩ := exists_of_map_eq_ok given
      obtain ⟨rfl, -⟩ := Prod.mk.inj same
      exact gives mode source b found
    | nil =>
      cases closed with
      | false => contradiction
      | true =>
        obtain ⟨b, found, same⟩ := exists_of_map_eq_ok given
        obtain ⟨rfl, -⟩ := Prod.mk.inj same
        exact short b found

/-- What is made of everything that a description puts together. -/
theorem map {fields : Fields α} {f : α → β} {P : β → Prop} (gives : fields.Gives fun a => P (f a)) :
    (f <$> fields).Gives P where
  fromObject := by
    obtain ⟨known, start, keeps, ends⟩ := gives.fromObject
    refine ⟨known, start, keeps, fun slots b here given => ?_⟩
    obtain ⟨a, found, rfl⟩ := exists_of_map_eq_ok given
    exact ends slots a here found
  fromArray := by
    intro mode sources closed b rest given
    obtain ⟨⟨a, rest'⟩, found, same⟩ := exists_of_map_eq_ok given
    obtain ⟨rfl, -⟩ := Prod.mk.inj same
    exact gives.fromArray mode sources closed a rest' found

/-- Fields of a function and of its argument: what the function makes of every argument with a
property, and that the argument has it. -/
theorem seq {first : Fields (α → β)} {second : Fields α} {P : β → Prop} (Q : α → Prop)
    (gives : first.Gives fun f => ∀ a, Q a → P (f a)) (gives' : second.Gives Q) :
    (first <*> second).Gives P where
  fromObject := by
    obtain ⟨known, start, keeps, ends⟩ := gives.fromObject
    obtain ⟨known', start', keeps', ends'⟩ := gives'.fromObject
    -- Each entry goes to one of the two descriptions, and the slots of the other one stay.
    refine ⟨fun slots => known slots.1 ∧ known' slots.2, ⟨start, start'⟩, ?_, ?_⟩
    · rintro mode ⟨slots, slots'⟩ name source next ⟨here, here'⟩ taken
      cases accepted : first.accept mode slots name source with
      | some answer =>
        rw [accept_seq_of_some accepted] at taken
        obtain ⟨after, rfl, rfl⟩ := exists_of_map_eq_ok (Option.some.inj taken)
        exact ⟨keeps _ _ _ _ _ here accepted, here'⟩
      | none =>
        rw [accept_seq_of_none accepted] at taken
        obtain ⟨answer, accepted', same⟩ := Option.map_eq_some_iff.1 taken
        obtain ⟨after, rfl, rfl⟩ := exists_of_map_eq_ok same
        exact ⟨here, keeps' _ _ _ _ _ here' accepted'⟩
    · rintro ⟨slots, slots'⟩ b ⟨here, here'⟩ given
      cases found : first.collect slots with
      | error fault =>
        rw [collect_seq_of_error found] at given
        contradiction
      | ok f =>
        rw [collect_seq_of_ok found] at given
        obtain ⟨a, found', rfl⟩ := exists_of_map_eq_ok given
        exact ends slots f here found a (ends' slots' a here' found')
  fromArray := by
    intro mode sources closed b rest given
    cases found : first.take mode sources closed with
    | error fault =>
      rw [take_seq_of_error found] at given
      contradiction
    | ok taken =>
      obtain ⟨f, between⟩ := taken
      rw [take_seq_of_ok found] at given
      obtain ⟨⟨a, rest'⟩, found', same⟩ := exists_of_map_eq_ok given
      obtain ⟨rfl, -⟩ := Prod.mk.inj same
      exact gives.fromArray _ _ _ _ _ found a (gives'.fromArray _ _ _ _ _ found')

end Gives

end Fields

end Itinerary.Json
