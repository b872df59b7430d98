import Itinerary.Proofs.Json.Outcome
import Mathlib.Data.List.Forall2

/-!
# The parts that a record is read from

A record is read from an object or from an array. Each of its fields has a part of that source: what
the object has under the name of the field, or what the array has at its place (`Source.part?`).
Where reading succeeds, each field holds what its own reader gives for its part, and what is set for
a missing field where there is no such part (`Reader.Takes`).

A value with a tag is read from what is left of the source without the tag, whose parts are those of
the source itself (`Reader.exists_of_tagged`).

A description of a record is followed field by field, in the order in which the fields are put
together (`Fields.From.first`, `Fields.From.seq`); a field that does not matter is passed over
(`Fields.From.other`). As for reading back, all that has to be known of the fields in front is that
none of them answers to the name of the next one.
-/

namespace Itinerary.Json

variable {α β : Type}

/-- The part of a source that belongs to a field with a name and a place. Of two parts under one
name it is the first; nothing is read from such an object anyway. -/
def Source.part? (name : String) (place : Nat) : Source → Option Source
  | .obj fields _ => fields.lookup (some name)
  | .arr items _ => items[place]?
  | _ => none

/-- A part is not found under another name. -/
theorem Source.lookup_cons_of_ne {name key : String} (differs : name ≠ key) (source : Source)
    (entries : List (Option String × Source)) :
    ((some key, source) :: entries).lookup (some name) = entries.lookup (some name) := by
  have apart : (some name == some key) = false := by simpa using differs
  rw [List.lookup_cons, apart]

/-- A field that is left out or null. -/
def Source.Lacks (source : Source) (name : String) (place : Nat) : Prop :=
  ∀ part ∈ source.part? name place, part = .null

/-- What a reader gives for a part, or one of two stand-ins for a part that is missing. -/
def Reader.Takes (read : Reader α) (mode : Mode) (part : Option Source)
    (missing leftOut : Except Fault α) (a : α) : Prop :=
  match part with
  | some source => read mode source = .ok a
  | none => missing = .ok a ∨ leftOut = .ok a

namespace Reader.Takes

variable {read : Reader α} {mode : Mode} {part : Option Source} {a : α}

/-- A field that has to be there was there. -/
theorem exists_part {fault fault' : Fault}
    (takes : read.Takes mode part (.error fault) (.error fault') a) :
    ∃ source, part = some source ∧ read mode source = .ok a := by
  cases part with
  | some source => exact ⟨source, rfl, takes⟩
  | none =>
    rcases takes with absent | absent
    · cases absent
    · cases absent

/-- A field that may be null or left out holds nothing where it is. -/
theorem eq_none {o : Option α} (takes : read.optional.Takes mode part (.ok none) (.ok none) o)
    (lacks : ∀ source ∈ part, source = .null) : o = none := by
  cases part with
  | some source =>
    have null := lacks source rfl
    subst null
    exact (Except.ok.inj takes).symm
  | none =>
    rcases takes with absent | absent
    · exact (Except.ok.inj absent).symm
    · exact (Except.ok.inj absent).symm

end Reader.Takes

/-! ## Objects, entry by entry -/

namespace Fields

/-- Every entry of an object that a description answers to is taken, and the others are passed
over. -/
inductive Follows (fields : Fields α) (mode : Mode) :
    fields.Slots → List (Option String × Source) → fields.Slots → Prop
  | nil (slots : fields.Slots) : Follows fields mode slots [] slots
  | take {slots slots' slots'' : fields.Slots} {name : String} {source : Source}
      {rest : List (Option String × Source)}
      (taken : fields.accept mode slots name source = some (.ok slots'))
      (others : Follows fields mode slots' rest slots'') :
      Follows fields mode slots ((some name, source) :: rest) slots''
  | pass {slots slots' : fields.Slots} {name : String} {source : Source}
      {rest : List (Option String × Source)}
      (ignored : fields.accept mode slots name source = none)
      (others : Follows fields mode slots rest slots') :
      Follows fields mode slots ((some name, source) :: rest) slots'

/-- An object that was read to its end was followed entry by entry. -/
theorem follows_of_fold {fields : Fields α} {mode : Mode} {slots slots' : fields.Slots}
    {entries : List (Option String × Source)}
    (folded : fields.fold mode slots entries = .ok slots') :
    fields.Follows mode slots entries slots' := by
  induction entries generalizing slots with
  | nil =>
    obtain rfl : slots = slots' := Except.ok.inj folded
    exact .nil slots
  | cons entry entries ih =>
    obtain ⟨name, source⟩ := entry
    cases name with
    | none => cases folded
    | some name =>
      unfold Fields.fold at folded
      split at folded
      · rename_i next taken
        exact .take taken (ih folded)
      · cases folded
      · rename_i ignored
        split at folded
        · exact .pass ignored (ih folded)
        · cases folded

namespace Follows

variable {mode : Mode} {entries : List (Option String × Source)}

/-- What is made of the fields in the end does not matter on the way. -/
theorem map {fields : Fields α} {f : α → β} {slots slots' : (f <$> fields).Slots}
    (follows : (f <$> fields).Follows mode slots entries slots') :
    Follows fields mode slots entries slots' := by
  induction follows with
  | nil slots => exact @Follows.nil _ fields mode slots
  | take taken _ ih => exact .take taken ih
  | pass ignored _ ih => exact .pass ignored ih

/-- The fields in front take what they would take alone. -/
theorem left {first : Fields (α → β)} {second : Fields α}
    {slots slots' : (first <*> second).Slots}
    (follows : (first <*> second).Follows mode slots entries slots') :
    first.Follows mode slots.1 entries slots'.1 := by
  induction follows with
  | nil slots => exact .nil slots.1
  | @take slots next last name source rest taken _ ih =>
    obtain ⟨here, there⟩ := slots
    cases accepted : first.accept mode here name source with
    | some answer =>
      rw [accept_seq_of_some accepted] at taken
      obtain ⟨after, rfl, rfl⟩ := exists_of_map_eq_ok (Option.some.inj taken)
      exact .take accepted ih
    | none =>
      rw [accept_seq_of_none accepted] at taken
      obtain ⟨answer, -, same⟩ := Option.map_eq_some_iff.1 taken
      obtain ⟨after, -, rfl⟩ := exists_of_map_eq_ok same
      exact .pass accepted ih
  | @pass slots next name source rest ignored _ ih =>
    obtain ⟨here, there⟩ := slots
    cases accepted : first.accept mode here name source with
    | some answer =>
      rw [accept_seq_of_some accepted] at ignored
      cases ignored
    | none => exact .pass accepted ih

/-- A field behind others takes what it would take alone, if none of them answers to its name. -/
theorem right {first : Fields (α → β)} {name : String} {read : Reader α}
    {missing leftOut : Except Fault α} (own : first.Ignores name)
    {slots slots' : (first <*> field name read missing leftOut).Slots}
    (follows : (first <*> field name read missing leftOut).Follows mode slots entries slots') :
    (field name read missing leftOut).Follows mode slots.2 entries slots'.2 := by
  have foreign {other : String} (differs : other ≠ name)
      (there : (field name read missing leftOut).Slots) (source : Source) :
      (field name read missing leftOut).accept mode there other source = none := if_neg differs
  -- An entry that another description takes has another name, so the field alone passes it over.
  induction follows with
  | nil slots => exact .nil slots.2
  | @take slots next last other source rest taken _ ih =>
    obtain ⟨here, there⟩ := slots
    cases accepted : first.accept mode here other source with
    | some answer =>
      have differs : other ≠ name := by
        rintro rfl
        rw [own mode here source] at accepted
        cases accepted
      rw [accept_seq_of_some accepted] at taken
      obtain ⟨after, rfl, rfl⟩ := exists_of_map_eq_ok (Option.some.inj taken)
      exact .pass (foreign differs there source) ih
    | none =>
      rw [accept_seq_of_none accepted] at taken
      obtain ⟨answer, accepted', same⟩ := Option.map_eq_some_iff.1 taken
      obtain ⟨after, rfl, rfl⟩ := exists_of_map_eq_ok same
      exact .take accepted' ih
  | @pass slots next other source rest ignored _ ih =>
    obtain ⟨here, there⟩ := slots
    cases accepted : first.accept mode here other source with
    | some answer =>
      rw [accept_seq_of_some accepted] at ignored
      cases ignored
    | none =>
      rw [accept_seq_of_none accepted] at ignored
      exact .pass (Option.map_eq_none_iff.1 ignored) ih

variable {name : String} {read : Reader α} {missing leftOut : Except Fault α}

/-- A field that was taken is not taken a second time. -/
theorem field_some {a : α} {before slot : (field name read missing leftOut).Slots}
    (follows : (field name read missing leftOut).Follows mode before entries slot)
    (start : before = some a) : slot = some a := by
  induction follows with
  | nil slots => exact start
  | @take slots next last other source rest taken _ ih =>
    subst start
    have answer : (if other = name then some (Except.error Fault.mismatch) else none) =
        some (.ok next) := taken
    split at answer
    · cases answer
    · cases answer
  | pass ignored _ ih => exact ih start

/-- A field holds what its reader gives for the entry under its name. -/
theorem field_none {before slot : (field name read missing leftOut).Slots}
    (follows : (field name read missing leftOut).Follows mode before entries slot)
    (start : before = none) :
    match entries.lookup (some name) with
    | some source => ∃ a, read mode source = .ok a ∧ slot = some a
    | none => slot = none := by
  induction follows with
  | nil slots => exact start
  | @take slots next last other source rest taken others ih =>
    subst start
    by_cases own : other = name
    · subst own
      have answer : (if other = other then some ((read mode source).map some) else none) =
          some (.ok next) := taken
      rw [if_pos rfl] at answer
      obtain ⟨a, found, rfl⟩ := exists_of_map_eq_ok (Option.some.inj answer)
      rw [List.lookup_cons_self]
      exact ⟨a, found, others.field_some rfl⟩
    · have ignored : (field name read missing leftOut).accept mode none other source = none :=
        if_neg own
      rw [ignored] at taken
      cases taken
  | @pass slots next other source rest ignored _ ih =>
    subst start
    by_cases own : other = name
    · subst own
      have answer : (if other = other then some ((read mode source).map some) else none) = none :=
        ignored
      rw [if_pos rfl] at answer
      cases answer
    · rw [Source.lookup_cons_of_ne fun same => own same.symm]
      exact ih rfl

end Follows

/-! ## Records, field by field -/

/-- Whatever a description reads from a source has a property. Of an array it takes so many items
from the front. -/
structure From (fields : Fields α) (mode : Mode) (source : Source) (width : Nat)
    (P : α → Prop) : Prop where
  ofObject : ∀ entries closed slots a, source = .obj entries closed →
    fields.Follows mode fields.empty entries slots → fields.collect slots = .ok a → P a
  ofArray : ∀ items closed a rest, source = .arr items closed →
    fields.take mode items closed = .ok (a, rest) → rest = items.drop width ∧ P a

namespace From

variable {mode : Mode} {source : Source} {name : String} {read : Reader α}
  {missing leftOut : Except Fault α}

/-- A description with one field takes its value from the part with its name or in its place. -/
theorem field {P : α → Prop}
    (each : ∀ a, read.Takes mode (source.part? name 0) missing leftOut a → P a) :
    (Fields.field name read missing leftOut).From mode source 1 P where
  ofObject := by
    rintro entries closed slot a rfl follows collected
    have held := Follows.field_none follows rfl
    apply each
    show read.Takes mode (entries.lookup (some name)) missing leftOut a
    cases found : entries.lookup (some name) with
    | some part =>
      simp only [found] at held
      obtain ⟨b, given, rfl⟩ := held
      obtain rfl : b = a := Except.ok.inj collected
      exact given
    | none =>
      simp only [found] at held
      subst held
      exact .inl collected
  ofArray := by
    rintro items closed a rest rfl taken
    cases items with
    | cons part items =>
      obtain ⟨b, given, same⟩ := exists_of_map_eq_ok taken
      obtain ⟨rfl, rfl⟩ := Prod.mk.inj same
      exact ⟨rfl, each b given⟩
    | nil =>
      cases closed with
      | false => cases taken
      | true =>
        obtain ⟨b, given, same⟩ := exists_of_map_eq_ok taken
        obtain ⟨rfl, rfl⟩ := Prod.mk.inj same
        exact ⟨rfl, each b (.inr given)⟩

/-- The first field of a record. -/
theorem first {f : α → β} {P : β → Prop}
    (each : ∀ a, read.Takes mode (source.part? name 0) missing leftOut a → P (f a)) :
    (f <$> Fields.field name read missing leftOut).From mode source 1 P where
  ofObject := by
    rintro entries closed slot b rfl follows collected
    obtain ⟨a, found, rfl⟩ := exists_of_map_eq_ok collected
    exact (field each).ofObject entries closed slot a rfl follows.map found
  ofArray := by
    rintro items closed b rest rfl taken
    obtain ⟨⟨a, rest'⟩, found, same⟩ := exists_of_map_eq_ok taken
    obtain ⟨rfl, rfl⟩ := Prod.mk.inj same
    exact (field each).ofArray items closed a rest' rfl found

/-- One more field behind those that were followed. -/
theorem seq {before : Fields (α → β)} {width : Nat} {P : β → Prop}
    (known : before.From mode source width fun f =>
      ∀ a, read.Takes mode (source.part? name width) missing leftOut a → P (f a))
    (own : before.Ignores name) :
    (before <*> Fields.field name read missing leftOut).From mode source (width + 1) P where
  ofObject := by
    rintro entries closed ⟨slots, slot⟩ b rfl follows collected
    cases found : before.collect slots with
    | error fault =>
      rw [collect_seq_of_error found] at collected
      cases collected
    | ok f =>
      rw [collect_seq_of_ok found] at collected
      obtain ⟨a, found', rfl⟩ := exists_of_map_eq_ok collected
      refine known.ofObject entries closed slots f rfl follows.left found a ?_
      exact (field fun _ takes => takes).ofObject entries closed slot a rfl (follows.right own)
        found'
  ofArray := by
    rintro items closed b rest rfl taken
    cases found : before.take mode items closed with
    | error fault =>
      rw [take_seq_of_error found] at taken
      cases taken
    | ok taken' =>
      obtain ⟨f, between⟩ := taken'
      rw [take_seq_of_ok found] at taken
      obtain ⟨⟨a, rest'⟩, found', same⟩ := exists_of_map_eq_ok taken
      obtain ⟨rfl, rfl⟩ := Prod.mk.inj same
      obtain ⟨rfl, holds⟩ := known.ofArray items closed f between rfl found
      have behind : (Source.arr (items.drop width) closed).part? name 0 =
          (Source.arr items closed).part? name width := by
        simp only [Source.part?, List.getElem?_drop, Nat.add_zero]
      obtain ⟨rfl, takes⟩ :=
        (field fun _ takes => takes).ofArray _ closed a rest' rfl found'
      rw [behind] at takes
      exact ⟨List.drop_drop, holds a takes⟩

/-- A weaker property of what is read. -/
theorem mono {fields : Fields α} {width : Nat} {P Q : α → Prop}
    (known : fields.From mode source width P) (each : ∀ a, P a → Q a) :
    fields.From mode source width Q where
  ofObject entries closed slots a here follows collected :=
    each a (known.ofObject entries closed slots a here follows collected)
  ofArray items closed a rest here taken :=
    have front := known.ofArray items closed a rest here taken
    ⟨front.1, each a front.2⟩

/-- One more field that the property does not depend on. -/
theorem other {before : Fields (α → β)} {width : Nat} {P : β → Prop}
    (known : before.From mode source width fun f => ∀ a, P (f a)) (own : before.Ignores name) :
    (before <*> Fields.field name read missing leftOut).From mode source (width + 1) P :=
  seq (known.mono fun _ all a _ => all a) own

/-- Whatever is read has the property. -/
theorem record {fields : Fields α} {width : Nat} {P : α → Prop}
    (known : fields.From mode source width P) {a : α}
    (given : Reader.record fields mode source = .ok a) : P a := by
  cases source with
  | obj entries closed =>
    rw [Reader.record] at given
    split at given
    · cases given
    · rename_i slots folded
      split at given
      · exact known.ofObject entries closed slots a rfl (follows_of_fold folded) given
      · cases given
  | arr items closed =>
    rw [Reader.record] at given
    split at given
    · cases given
    · rename_i b rest taken
      split at given
      · obtain rfl : b = a := Except.ok.inj given
        exact (known.ofArray items closed b rest rfl taken).2
      · cases given
  | _ => cases given

end From

end Fields

/-! ## Rules, lists and tags -/

namespace Reader

variable {mode : Mode} {source : Source}

/-- What is not read as anything is refused. -/
theorem exists_error_of_ne {answer : Except Fault α} (none : ∀ a, answer ≠ .ok a) :
    ∃ fault, answer = .error fault := by
  cases answer with
  | error fault => exact ⟨fault, rfl⟩
  | ok a => exact absurd rfl (none a)

/-- What is read and then refined was read before. -/
theorem exists_of_refine {read : Reader α} {f : α → Except String β} {b : β}
    (given : read.refine f mode source = .ok b) :
    ∃ a, read mode source = .ok a ∧ f a = .ok b := by
  rw [Reader.refine] at given
  cases found : read mode source with
  | error fault =>
    rw [found] at given
    cases given
  | ok a =>
    rw [found] at given
    cases made : f a with
    | error reason =>
      simp only [made] at given
      cases given
    | ok c =>
      simp only [made] at given
      exact ⟨a, rfl, made.trans (congrArg Except.ok (Except.ok.inj given))⟩

/-- A list that is read has as many items as the source, and each is read from the one in its place.
-/
theorem forall₂_of_items {read : Reader α} {sources : List Source} {as : List α}
    (given : items read mode sources = .ok as) :
    List.Forall₂ (fun source a => read mode source = .ok a) sources as := by
  induction sources generalizing as with
  | nil =>
    obtain rfl : [] = as := Except.ok.inj given
    exact .nil
  | cons source sources ih =>
    rw [items] at given
    cases found : read mode source with
    | error fault =>
      rw [found] at given
      cases given
    | ok a =>
      rw [found] at given
      obtain ⟨rest, others, rfl⟩ := exists_of_map_eq_ok given
      exact .cons found (ih others)

/-- A list is read from an array, item by item. -/
theorem exists_of_list {read : Reader α} {as : List α} (given : read.list mode source = .ok as) :
    ∃ sources closed, source = .arr sources closed ∧
      List.Forall₂ (fun source a => read mode source = .ok a) sources as := by
  cases source with
  | arr sources closed =>
    rw [list] at given
    split at given
    · cases given
    · rename_i bs found
      split at given
      · obtain rfl : bs = as := Except.ok.inj given
        exact ⟨sources, closed, rfl, forall₂_of_items found⟩
      · cases given
  | _ => cases given

/-- No item of a list that is read is passed over. -/
theorem exists_of_mem {read : Reader α} {sources : List Source} {as : List α}
    (each : List.Forall₂ (fun source a => read mode source = .ok a) sources as)
    (mem : source ∈ sources) : ∃ a, read mode source = .ok a := by
  induction each with
  | nil => cases mem
  | @cons _ a _ _ given _ ih =>
    cases mem with
    | head => exact ⟨a, given⟩
    | tail _ behind => exact ih behind

variable {tag : String} {pick : String → Except Fault (Reader α)}

/-- The tag is met at most once, and it is a text that names a reader. -/
theorem exists_of_splitTag_own {found : Option (Reader α)} {source : Source}
    {entries : List (Option String × Source)}
    {after : Option (Reader α) × List (Option String × Source)}
    (split : splitTag tag pick found ((some tag, source) :: entries) = .ok after) :
    found = none ∧ ∃ name read, text .gathered source = .ok name ∧ pick name = .ok read ∧
      splitTag tag pick (some read) entries = .ok after := by
  rw [splitTag.eq_def] at split
  simp only [if_pos] at split
  cases found with
  | some read => cases split
  | none =>
    cases named : text .gathered source with
    | error fault =>
      simp only [named] at split
      cases split
    | ok name =>
      cases picked : pick name with
      | error fault =>
        simp only [named, picked] at split
        cases split
      | ok read =>
        simp only [named, picked] at split
        exact ⟨rfl, name, read, rfl, picked, split⟩

/-- What has another name is gathered. -/
theorem exists_of_splitTag_other {found found' : Option (Reader α)} {key : String}
    {source : Source} {entries others : List (Option String × Source)} (other : key ≠ tag)
    (split : splitTag tag pick found ((some key, source) :: entries) = .ok (found', others)) :
    ∃ rest, splitTag tag pick found entries = .ok (found', rest) ∧
      others = (some key, source) :: rest := by
  rw [splitTag.eq_def] at split
  simp only [if_neg other] at split
  split at split
  · obtain ⟨⟨read, rest⟩, split', same⟩ := exists_of_map_eq_ok split
    obtain ⟨rfl, rfl⟩ := Prod.mk.inj same
    exact ⟨rest, split', rfl⟩
  · cases split

/-- What is gathered beside the tag has under all other names what was there. -/
theorem lookup_of_splitTag {found found' : Option (Reader α)}
    {entries others : List (Option String × Source)}
    (split : splitTag tag pick found entries = .ok (found', others)) {name : String}
    (other : name ≠ tag) : others.lookup (some name) = entries.lookup (some name) := by
  induction entries generalizing found others with
  | nil =>
    obtain ⟨-, rfl⟩ := Prod.mk.inj (Except.ok.inj split)
    rfl
  | cons entry entries ih =>
    obtain ⟨key, source⟩ := entry
    cases key with
    | none => cases split
    | some key =>
      by_cases own : key = tag
      · subst own
        obtain ⟨-, _, read, -, -, split'⟩ := exists_of_splitTag_own split
        rw [Source.lookup_cons_of_ne other, ih split']
      · obtain ⟨rest, split', rfl⟩ := exists_of_splitTag_other own split
        rw [List.lookup_cons, List.lookup_cons, ih split']

/-- The reader that was picked is the one for the tag. -/
theorem picked_of_splitTag {found found' : Option (Reader α)}
    {entries others : List (Option String × Source)}
    (split : splitTag tag pick found entries = .ok (found', others)) :
    match entries.lookup (some tag) with
    | some source => found = none ∧ ∃ name read, text .gathered source = .ok name ∧
        pick name = .ok read ∧ found' = some read
    | none => found' = found := by
  induction entries generalizing found others with
  | nil =>
    obtain ⟨rfl, -⟩ := Prod.mk.inj (Except.ok.inj split)
    rfl
  | cons entry entries ih =>
    obtain ⟨key, source⟩ := entry
    cases key with
    | none => cases split
    | some key =>
      by_cases own : key = tag
      · subst own
        obtain ⟨rfl, name, read, named, picked, split'⟩ := exists_of_splitTag_own split
        rw [List.lookup_cons_self]
        refine ⟨rfl, name, read, named, picked, ?_⟩
        -- A second tag would have been refused.
        have behind := ih split'
        split at behind
        · cases behind.1
        · exact behind
      · obtain ⟨rest, split', rfl⟩ := exists_of_splitTag_other own split
        rw [Source.lookup_cons_of_ne fun same => own same.symm]
        exact ih split'

/-- A value with a tag is read by the reader for the tag, from the parts that the source has beside
the tag. -/
theorem exists_of_tagged {a : α} {name : String} (given : tagged tag pick mode source = .ok a)
    (named : source.part? tag 0 = some (.str name)) :
    ∃ read rest, pick name = .ok read ∧ read .gathered rest = .ok a ∧
      ∀ other place, other ≠ tag → rest.part? other place = source.part? other (place + 1) := by
  cases source with
  | obj fields closed =>
    -- The tag may stand anywhere among the fields; the others keep their order.
    have tagHere : fields.lookup (some tag) = some (.str name) := named
    rw [tagged] at given
    split at given
    · cases given
    · rename_i found others split
      have picked := picked_of_splitTag split
      rw [tagHere] at picked
      obtain ⟨-, name', read, named', picks, rfl⟩ := picked
      obtain rfl : name = name' := Except.ok.inj named'
      split at given
      · exact ⟨read, .obj others true, picks, given,
          fun other place differs => lookup_of_splitTag split differs⟩
      · cases given
  | arr items closed =>
    -- The tag comes first, so all other parts move up by one place.
    cases items with
    | nil => cases named
    | cons first rest =>
      obtain rfl : first = .str name := Option.some.inj named
      rw [tagged] at given
      split at given
      · cases given
      · rename_i name' named'
        obtain rfl : name = name' := Except.ok.inj named'
        split at given
        · cases given
        · rename_i read picks
          split at given
          · exact ⟨read, .arr rest true, picks, given, fun other place _ => rfl⟩
          · cases given
  | _ => cases named

end Reader

end Itinerary.Json
