import Itinerary.Json.Reader

/-!
# Reading what was written

A reader reads a value back when it gives that value for what is written of it, wherever the source
comes from (`Reader.ReadsBack`). For each way to make a reader there is a lemma that says when it
reads back. Where a value comes back as another one, a reader still gives that one for what is
written (`Reader.Accepts`).

A record is read back field by field: its description takes each field of the object under its own
name, and puts the record together at the end (`Fields.Reads`). A description is made with `<$>` and
`<*>`, and so is the proof that it reads a record (`Reads.map`, `Reads.seq`). What has to be shown
at each step is only that no earlier field answers to the name of a later one (`Fields.Ignores`).
-/

namespace Itinerary.Json

variable {α β : Type}

/-! ## Values -/

/-- What is present is not taken for a null. -/
theorem toSource_ne_null {j : Json} (present : j ≠ .null) : j.toSource ≠ .null := by
  cases j with
  | null => exact absurd rfl present
  | _ => exact nofun

/-- A reader gives a value for a JSON value. -/
def Reader.Accepts (read : Reader α) (j : Json) (a : α) : Prop :=
  ∀ mode, read mode j.toSource = .ok a

namespace Reader.Accepts

/-- What is accepted and then changed. -/
theorem map {read : Reader α} {j : Json} {a : α} (f : α → β) (accepts : read.Accepts j a) :
    (read.map f).Accepts j (f a) := by
  intro mode
  rw [Reader.map, accepts mode]
  rfl

/-- A value that is made of one which a reader gives. -/
theorem refine {read : Reader α} {f : α → Except String β} {j : Json} {a : α} {b : β}
    (accepts : read.Accepts j a) (made : f a = .ok b) : (read.refine f).Accepts j b := by
  intro mode
  rw [Reader.refine, accepts mode]
  simp only [made]
  rfl

/-- A value that may be null, as long as null is not what is written of one. -/
theorem optional {read : Reader β} {write : α → Json} {f : α → β} {o : Option α}
    (each : ∀ a ∈ o, read.Accepts (write a) (f a)) (present : ∀ a, write a ≠ .null) :
    read.optional.Accepts (.opt write o) (o.map f) := by
  intro mode
  cases o with
  | none => rfl
  | some a =>
    have given := toSource_ne_null (present a)
    show read.optional mode (write a).toSource = _
    rw [Reader.optional.eq_def]
    split
    · rename_i null
      exact absurd null given
    · rw [each a rfl]
      rfl

/-- The items of a list are read one by one, each as its reader accepts it. -/
theorem items {read : Reader β} {write : α → Json} {f : α → β} {as : List α}
    (each : ∀ a ∈ as, read.Accepts (write a) (f a)) (mode : Mode) :
    Reader.items read mode (itemSources (as.map write)) = .ok (as.map f) := by
  induction as with
  | nil => rfl
  | cons a as ih =>
    obtain ⟨first, rest⟩ := List.forall_mem_cons.1 each
    rw [List.map_cons, itemSources, Reader.items, first mode, ih rest]
    rfl

/-- A list of values, item by item. -/
theorem list {read : Reader β} {write : α → Json} {f : α → β} {as : List α}
    (each : ∀ a ∈ as, read.Accepts (write a) (f a)) :
    read.list.Accepts (.list write as) (as.map f) := by
  intro mode
  show read.list mode (.arr (itemSources (as.map write)) true) = _
  rw [Reader.list, items each]
  rfl

end Reader.Accepts

/-- A reader that gives a value for what is written of it. -/
def Reader.ReadsBack (read : Reader α) (write : α → Json) (a : α) : Prop :=
  ∀ mode, read mode (write a).toSource = .ok a

namespace Reader.ReadsBack

theorem text (s : String) : Reader.text.ReadsBack .str s := fun _ => rfl

theorem bool (b : Bool) : Reader.bool.ReadsBack .bool b := fun _ => rfl

/-- Every whole number within the bounds of its reader is read back. -/
theorem whole {low high i : Int} (above : low ≤ i) (below : i ≤ high) :
    (Reader.whole low high).ReadsBack .int i := by
  intro mode
  exact if_pos ⟨above, below⟩

theorem int64 (w : Int64) : Reader.int64.ReadsBack (fun w => .int w.toInt) w := by
  intro mode
  have back := whole (Int64.minValue_le_toInt w) (Int64.toInt_le w) mode
  rw [Reader.int64, Reader.map, back]
  show Except.ok (Int64.ofInt w.toInt) = _
  rw [Int64.ofInt_toInt]

theorem int32 (w : Int32) : Reader.int32.ReadsBack (fun w => .int w.toInt) w := by
  intro mode
  have back := whole (Int32.minValue_le_toInt w) (Int32.toInt_le w) mode
  rw [Reader.int32, Reader.map, back]
  show Except.ok (Int32.ofInt w.toInt) = _
  rw [Int32.ofInt_toInt]

theorem uint32 (n : UInt32) : Reader.uint32.ReadsBack (fun n => .int n.toNat) n := by
  intro mode
  have below : (n.toNat : Int) ≤ UInt32.size - 1 := by
    have := n.toNat_lt
    show (n.toNat : Int) ≤ 4294967296 - 1
    omega
  have back := whole (Int.natCast_nonneg n.toNat) below mode
  rw [Reader.uint32, Reader.map, back]
  show Except.ok (UInt32.ofNat (n.toNat : Int).toNat) = _
  rw [Int.toNat_natCast, UInt32.ofNat_toNat]

/-- A value that may be null, as long as null is not what is written of one. -/
theorem optional {read : Reader α} {write : α → Json} {o : Option α}
    (each : ∀ a ∈ o, read.ReadsBack write a) (present : ∀ a, write a ≠ .null) :
    read.optional.ReadsBack (.opt write) o := by
  have accepts : read.optional.Accepts (.opt write o) (o.map id) := .optional each present
  rw [Option.map_id] at accepts
  exact accepts

/-- A list of values that are read back one by one. -/
theorem list {read : Reader α} {write : α → Json} {as : List α}
    (each : ∀ a ∈ as, read.ReadsBack write a) : read.list.ReadsBack (.list write) as := by
  have accepts : read.list.Accepts (.list write as) (as.map id) := .list each
  rw [List.map_id] at accepts
  exact accepts

/-- A text that may be null. -/
theorem optText (o : Option String) : Reader.text.optional.ReadsBack .optStr o :=
  optional (fun s _ => text s) fun _ => nofun

/-- A value that is made of one which is read back. -/
theorem refine {read : Reader α} {f : α → Except String β} {write : α → Json} (g : β → α)
    {b : β} (back : read.ReadsBack write (g b)) (made : f (g b) = .ok b) :
    (read.refine f).ReadsBack (fun b => write (g b)) b :=
  Accepts.refine back made

/-- A text that there is a value for. -/
theorem narrow {read : Reader α} {f : α → Option β} {write : α → Json} (g : β → α) {b : β}
    (back : read.ReadsBack write (g b)) (made : f (g b) = some b) :
    (read.narrow f).ReadsBack (fun b => write (g b)) b := by
  intro mode
  rw [Reader.narrow, back mode]
  simp only [made]

/-- A float, as long as it is not written as null. -/
theorem number {x : Float} (finite : x.isFinite = true) : Reader.float.ReadsBack .number x := by
  intro mode
  rw [Json.number, if_pos finite]
  rfl

/-- One of several alternatives, if its name is its own. -/
theorem variant {table : List (String × α)} {name : α → String} {a : α}
    (own : table.lookup (name a) = some a) :
    (Reader.variant table).ReadsBack (fun a => .str (name a)) a := by
  intro mode
  show Reader.named table (name a) = _
  rw [Reader.named, own]

/-- A document that is what was written and nothing more. -/
theorem document {read : Reader α} {write : α → Json} {a : α} (back : read.ReadsBack write a) :
    read.document (write a).toSource true = .ok a := by
  rw [Reader.document, back .streamed]
  rfl

end Reader.ReadsBack

/-! ## Records -/

namespace Fields

section Seq

variable {first : Fields (α → β)} {second : Fields α} {mode : Mode} {slots : first.Slots}
  {slots' : second.Slots} {key : String} {source : Source}

/-- A field that the first of two descriptions takes is not offered to the second. -/
theorem accept_seq_of_some {answer : Except Fault first.Slots}
    (h : first.accept mode slots key source = some answer) :
    (first <*> second).accept mode (slots, slots') key source =
      some (answer.map (·, slots')) := by
  show (first.seq second).accept mode (slots, slots') key source = _
  simp only [Fields.seq, h]

/-- A field that the first of two descriptions ignores is offered to the second. -/
theorem accept_seq_of_none (h : first.accept mode slots key source = none) :
    (first <*> second).accept mode (slots, slots') key source =
      (second.accept mode slots' key source).map fun answer => answer.map (slots, ·) := by
  show (first.seq second).accept mode (slots, slots') key source = _
  simp only [Fields.seq, h]

/-- Two descriptions put together what both have collected. -/
theorem collect_seq_of_ok {f : α → β} (h : first.collect slots = .ok f) :
    (first <*> second).collect (slots, slots') = (second.collect slots').map f := by
  show (first.seq second).collect (slots, slots') = _
  simp only [Fields.seq, h]

/-- A fault of the first description is the fault of both. -/
theorem collect_seq_of_error {fault : Fault} (h : first.collect slots = .error fault) :
    (first <*> second).collect (slots, slots') = .error fault := by
  show (first.seq second).collect (slots, slots') = _
  simp only [Fields.seq, h]

/-- From an array, the second description takes what the first one leaves. -/
theorem take_seq_of_ok {sources rest : List Source} {closed : Bool} {f : α → β}
    (h : first.take mode sources closed = .ok (f, rest)) :
    (first <*> second).take mode sources closed =
      (second.take mode rest closed).map fun taken => (f taken.1, taken.2) := by
  show (first.seq second).take mode sources closed = _
  simp only [Fields.seq, h]

/-- When the first description finds fault with an array, the second one is not asked. -/
theorem take_seq_of_error {sources : List Source} {closed : Bool} {fault : Fault}
    (h : first.take mode sources closed = .error fault) :
    (first <*> second).take mode sources closed = .error fault := by
  show (first.seq second).take mode sources closed = _
  simp only [Fields.seq, h]

end Seq

/-- No field of a description answers to a name. -/
def Ignores (fields : Fields α) (name : String) : Prop :=
  ∀ mode slots source, fields.accept mode slots name source = none

/-- A description with one field takes that field only. -/
@[simp] theorem ignores_field {name key : String} {read : Reader α}
    {missing leftOut : Except Fault α} :
    (field name read missing leftOut).Ignores key ↔ key ≠ name := by
  constructor
  · rintro ignores rfl
    have taken : (if key = key then some ((read .streamed .null).map some) else none) = none :=
      ignores .streamed none .null
    rw [if_pos rfl] at taken
    contradiction
  · intro other mode slots source
    exact if_neg other

@[simp] theorem ignores_required {name key : String} {read : Reader α} :
    (required name read).Ignores key ↔ key ≠ name := ignores_field

@[simp] theorem ignores_defaulted {name key : String} {read : Reader α} {default : α} :
    (defaulted name read default).Ignores key ↔ key ≠ name := ignores_field

@[simp] theorem ignores_maybe {name key : String} {read : Reader α} :
    (maybe name read).Ignores key ↔ key ≠ name := ignores_field

@[simp] theorem ignores_map {fields : Fields α} {f : α → β} {key : String} :
    (f <$> fields).Ignores key ↔ fields.Ignores key := Iff.rfl

/-- Two descriptions ignore what each of them ignores. -/
@[simp] theorem ignores_seq {first : Fields (α → β)} {second : Fields α} {key : String} :
    (first <*> second).Ignores key ↔ first.Ignores key ∧ second.Ignores key := by
  constructor
  · intro ignores
    have ignored : first.Ignores key := by
      intro mode slots source
      cases answer : first.accept mode slots key source with
      | none => rfl
      | some _ =>
        have taken := ignores mode (slots, second.empty) source
        rw [accept_seq_of_some answer] at taken
        contradiction
    refine ⟨ignored, fun mode slots source => ?_⟩
    have taken := ignores mode (first.empty, slots) source
    rw [accept_seq_of_none (ignored mode first.empty source)] at taken
    exact Option.map_eq_none_iff.1 taken
  · rintro ⟨ignored, ignored'⟩ mode ⟨slots, slots'⟩ source
    rw [accept_seq_of_none (ignored mode slots source), ignored']
    rfl

/-- Every field of an object is taken, one after the other. -/
inductive Absorbs (fields : Fields α) (mode : Mode) :
    fields.Slots → List (String × Json) → fields.Slots → Prop
  | nil (slots : fields.Slots) : Absorbs fields mode slots [] slots
  | cons {slots slots' slots'' : fields.Slots} {name : String} {value : Json}
      {rest : List (String × Json)}
      (first : fields.accept mode slots name value.toSource = some (.ok slots'))
      (others : Absorbs fields mode slots' rest slots'') :
      Absorbs fields mode slots ((name, value) :: rest) slots''

/-- A description that reads the fields of an object as a value. -/
def Reads (fields : Fields α) (entries : List (String × Json)) (a : α) : Prop :=
  ∀ mode, ∃ slots, fields.Absorbs mode fields.empty entries slots ∧ fields.collect slots = .ok a

namespace Absorbs

/-- An object whose fields are taken one after the other is read to its end. -/
theorem fold {fields : Fields α} {mode : Mode} {slots slots' : fields.Slots}
    {entries : List (String × Json)} (absorbs : fields.Absorbs mode slots entries slots') :
    fields.fold mode slots (fieldSources entries) = .ok slots' := by
  induction absorbs with
  | nil slots => rfl
  | cons first others ih =>
    rw [fieldSources, Fields.fold, first]
    exact ih

/-- Fields that are taken one after the other may be split in two groups. -/
theorem append {fields : Fields α} {mode : Mode} {slots slots' slots'' : fields.Slots}
    {entries others : List (String × Json)} (before : fields.Absorbs mode slots entries slots')
    (behind : fields.Absorbs mode slots' others slots'') :
    fields.Absorbs mode slots (entries ++ others) slots'' := by
  induction before with
  | nil slots => exact behind
  | cons first others ih => exact .cons first (ih behind)

/-- What is made of the fields in the end does not matter on the way. -/
theorem map {fields : Fields α} {mode : Mode} {slots slots' : fields.Slots}
    {entries : List (String × Json)} (f : α → β)
    (absorbs : fields.Absorbs mode slots entries slots') :
    (fields.map f).Absorbs mode slots entries slots' := by
  induction absorbs with
  | nil slots => exact @Absorbs.nil _ (fields.map f) mode slots
  | cons first others ih => exact .cons first ih

/-- Fields of the first description leave alone what the second one has. -/
theorem seqLeft {first : Fields (α → β)} {mode : Mode} {slots slots' : first.Slots}
    {entries : List (String × Json)} (second : Fields α) (kept : second.Slots)
    (absorbs : first.Absorbs mode slots entries slots') :
    (first <*> second).Absorbs mode (slots, kept) entries (slots', kept) := by
  induction absorbs with
  | nil slots => exact .nil _
  | cons taken others ih => exact .cons (accept_seq_of_some taken) ih

/-- Fields of the second description leave alone what the first one has, if the first one ignores
them. -/
theorem seqRight {second : Fields α} {mode : Mode} {slots slots' : second.Slots}
    {entries : List (String × Json)} (first : Fields (α → β)) (kept : first.Slots)
    (absorbs : second.Absorbs mode slots entries slots')
    (own : ∀ e ∈ entries, first.Ignores e.1) :
    (first <*> second).Absorbs mode (kept, slots) entries (kept, slots') := by
  induction absorbs with
  | nil slots => exact .nil _
  | cons taken others ih =>
    obtain ⟨ignored, rest⟩ := List.forall_mem_cons.1 own
    refine .cons ?_ (ih rest)
    rw [accept_seq_of_none (ignored mode kept _), taken]
    rfl

end Absorbs

namespace Reads

/-- A record is read from the fields that its description reads. -/
theorem record {fields : Fields α} {entries : List (String × Json)} {a : α}
    (reads : fields.Reads entries a) (mode : Mode) :
    Reader.record fields mode (Json.obj entries).toSource = .ok a := by
  obtain ⟨slots, absorbs, collected⟩ := reads mode
  show Reader.record fields mode (.obj (fieldSources entries) true) = _
  rw [Reader.record, absorbs.fold]
  exact collected

/-- One field is read from the value that its reader accepts. -/
theorem accepted {name : String} {read : Reader α} {missing leftOut : Except Fault α} {j : Json}
    {a : α} (accepts : read.Accepts j a) :
    (Fields.field name read missing leftOut).Reads [(name, j)] a := by
  intro mode
  refine ⟨some a, .cons ?_ (.nil _), rfl⟩
  show (if name = name then some ((read mode j.toSource).map some) else none) = _
  rw [if_pos rfl, accepts mode]
  rfl

/-- One field is read back from what is written for it. -/
theorem field {name : String} {read : Reader α} {missing leftOut : Except Fault α}
    {write : α → Json} {a : α} (back : read.ReadsBack write a) :
    (Fields.field name read missing leftOut).Reads [(name, write a)] a :=
  accepted back

/-- What is made of the fields that are read. -/
theorem map {fields : Fields α} {entries : List (String × Json)} {a : α} (f : α → β)
    (reads : fields.Reads entries a) : (f <$> fields).Reads entries (f a) := by
  intro mode
  obtain ⟨slots, absorbs, collected⟩ := reads mode
  refine ⟨slots, absorbs.map f, ?_⟩
  show (fields.collect slots).map f = _
  rw [collected]
  rfl

/-- First the fields of a function, then those of its argument. -/
theorem seq {first : Fields (α → β)} {entries : List (String × Json)} {f : α → β}
    {second : Fields α} {others : List (String × Json)} {a : α} (reads : first.Reads entries f)
    (more : second.Reads others a) (own : ∀ e ∈ others, first.Ignores e.1) :
    (first <*> second).Reads (entries ++ others) (f a) := by
  intro mode
  obtain ⟨slots, absorbs, collected⟩ := reads mode
  obtain ⟨slots', absorbs', collected'⟩ := more mode
  refine ⟨(slots, slots'), ?_, ?_⟩
  · exact (absorbs.seqLeft second second.empty).append (absorbs'.seqRight first slots own)
  · rw [collect_seq_of_ok collected, collected']
    rfl

end Reads

end Fields

/-! ## Tags -/

mutual

/-- Every value that is printed is readable: the three lemmas go through the tree together. -/
theorem isReadable_toSource : ∀ j : Json, j.toSource.isReadable = true
  | .null | .bool _ | .int _ | .float _ | .str _ => rfl
  | .arr js => itemsReadable_itemSources js
  | .obj fields => fieldsReadable_fieldSources fields

theorem itemsReadable_itemSources : ∀ js : List Json, Source.itemsReadable (itemSources js) = true
  | [] => rfl
  | j :: js => by
    rw [itemSources, Source.itemsReadable, isReadable_toSource j, itemsReadable_itemSources js]
    rfl

theorem fieldsReadable_fieldSources :
    ∀ fields : List (String × Json), Source.fieldsReadable (fieldSources fields) = true
  | [] => rfl
  | (name, j) :: fields => by
    rw [fieldSources, Source.fieldsReadable, isReadable_toSource j,
      fieldsReadable_fieldSources fields]
    rfl

end

/-- Behind the tag everything is gathered as it was written. -/
theorem Reader.splitTag_fieldSources {tag : String} {pick : String → Except Fault (Reader α)}
    (found : Option (Reader α)) {entries : List (String × Json)}
    (other : ∀ e ∈ entries, e.1 ≠ tag) :
    splitTag tag pick found (fieldSources entries) = .ok (found, fieldSources entries) := by
  induction entries with
  | nil => rfl
  | cons entry entries ih =>
    obtain ⟨name, j⟩ := entry
    obtain ⟨differs, rest⟩ := List.forall_mem_cons.1 other
    rw [fieldSources, splitTag.eq_def]
    simp only [if_neg differs, isReadable_toSource, if_true, ih rest]
    rfl

/-- A value with a tag is what the reader for the tag gives for the other fields. -/
theorem Reader.Accepts.tagged {tag name : String} {pick : String → Except Fault (Reader α)}
    {read : Reader α} {entries : List (String × Json)} {a : α} (picked : pick name = .ok read)
    (accepts : read.Accepts (.obj entries) a) (other : ∀ e ∈ entries, e.1 ≠ tag) :
    (Reader.tagged tag pick).Accepts (.obj ((tag, .str name) :: entries)) a := by
  intro mode
  have split : splitTag tag pick none (fieldSources ((tag, .str name) :: entries)) =
      .ok (some read, fieldSources entries) := by
    show (if tag = tag then _ else _) = _
    rw [if_pos rfl]
    simp only [Reader.text, toSource, picked]
    exact splitTag_fieldSources (some read) other
  show Reader.tagged tag pick mode (.obj (fieldSources ((tag, .str name) :: entries)) true) = _
  rw [Reader.tagged, split]
  exact accepts .gathered

end Itinerary.Json
