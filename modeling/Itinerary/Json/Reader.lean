import Itinerary.Json.Source

/-!
# Reading typed values out of JSON

A `Reader` turns a `Source` into a value of a type or says what is wrong with it. Faults are found
in the order of the text: a field is read when it is met, fields that nobody asks for are skipped,
and a missing field is noticed only at the closing brace, in the order in which the fields are
declared.

Records are described by their fields. `Fields` is an applicative description: `required` and
`defaulted` name one field each, and `<*>` puts them together, so a description is written like a
call of the constructor. The same description reads the record from an object and from an array of
its fields; an array may leave out fields at its end that have a default.

A value with a `tag` field is read in two steps: the tag says which reader takes the rest of the
fields, and the rest is gathered before that reader sees it.
-/

namespace Itinerary.Json

/-- Why a source was refused. -/
inductive Fault where
  /-- The text is not JSON at the place that was reached. -/
  | malformed
  /-- A value of another kind or out of range, or a field that occurs twice. -/
  | mismatch
  | missingField (name : String)
  | unknownVariant (name : String)
  /-- A value of the right kind that breaks a rule of its type. -/
  | rejected (reason : String)
  deriving DecidableEq, Repr

/-- The fault in words. -/
def Fault.message : Fault → String
  | .malformed => "not a JSON text"
  | .mismatch => "unexpected value"
  | .missingField name => "missing field `" ++ name ++ "`"
  | .unknownVariant name => "unknown variant `" ++ name ++ "`"
  | .rejected reason => reason

/-- Where a source comes from. Named alternatives that are written as objects are looked at
differently: a text is read field by field, a value in memory is first counted, and among gathered
fields an empty object may take the place of null. -/
inductive Mode where
  | streamed
  | inMemory
  | gathered
  deriving DecidableEq, Repr

/-- The fault of a source that has the wrong kind. -/
def Source.wrongKind : Source → Fault
  | .broken => .malformed
  | .unreadable => .malformed
  | _ => .mismatch

/-- Reads a value of a type. -/
def Reader (α : Type) : Type := Mode → Source → Except Fault α

namespace Reader

variable {α β : Type}

/-- Reads a value and turns it into another one. -/
def map (f : α → β) (read : Reader α) : Reader β := fun mode source =>
  (read mode source).map f

/-- Reads a value and turns it into another one, unless a rule forbids it. -/
def refine (read : Reader α) (f : α → Except String β) : Reader β := fun mode source =>
  match read mode source with
  | .error fault => .error fault
  | .ok a => (f a).mapError .rejected

/-- Reads a value and turns it into another one, if there is one for it. -/
def narrow (read : Reader α) (f : α → Option β) : Reader β := fun mode source =>
  match read mode source with
  | .error fault => .error fault
  | .ok a =>
    match f a with
    | some b => .ok b
    | none => .error .mismatch

/-- A text. -/
def text : Reader String
  | _, .str s => .ok s
  | _, source => .error source.wrongKind

/-- A truth value. -/
def bool : Reader Bool
  | _, .bool b => .ok b
  | _, source => .error source.wrongKind

/-- A whole number between two bounds. -/
def whole (low high : Int) : Reader Int
  | _, .int i => if low ≤ i ∧ i ≤ high then .ok i else .error .mismatch
  | _, source => .error source.wrongKind

def int64 : Reader Int64 :=
  (whole Int64.minValue.toInt Int64.maxValue.toInt).map Int64.ofInt

def int32 : Reader Int32 :=
  (whole Int32.minValue.toInt Int32.maxValue.toInt).map Int32.ofInt

def uint32 : Reader UInt32 := (whole 0 (UInt32.size - 1)).map fun i => UInt32.ofNat i.toNat

/-- A count that fits 64 bits. -/
def count : Reader Nat := (whole 0 (UInt64.size - 1)).map Int.toNat

/-- A float; whole numbers count as floats. -/
def float : Reader Float
  | _, .float x => .ok x
  | _, .int i => .ok (Float.ofInt i)
  | _, source => .error source.wrongKind

/-- A value that may be null. -/
def optional (read : Reader α) : Reader (Option α)
  | _, .null => .ok none
  | mode, source => (read mode source).map some

/-- Reads items one after the other. -/
def items (read : Reader α) (mode : Mode) : List Source → Except Fault (List α)
  | [] => .ok []
  | source :: rest =>
    match read mode source with
    | .error fault => .error fault
    | .ok a => (items read mode rest).map (a :: ·)

/-- A list. -/
def list (read : Reader α) : Reader (List α)
  | mode, .arr sources closed =>
    match items read mode sources with
    | .error fault => .error fault
    | .ok as => if closed then .ok as else .error .malformed
  | _, source => .error source.wrongKind

/-- Reads the named values of an object, in order. -/
def entriesFrom (read : Reader α) (mode : Mode) :
    List (Option String × Source) → Except Fault (List (String × α))
  | [] => .ok []
  | (none, _) :: _ => .error .malformed
  | (some name, source) :: rest =>
    match read mode source with
    | .error fault => .error fault
    | .ok a => (entriesFrom read mode rest).map ((name, a) :: ·)

/-- An object whose names are data. -/
def entries (read : Reader α) : Reader (List (String × α))
  | mode, .obj fields closed =>
    match entriesFrom read mode fields with
    | .error fault => .error fault
    | .ok as => if closed then .ok as else .error .malformed
  | _, source => .error source.wrongKind

/-- The alternative with a name. -/
def named (table : List (String × α)) (name : String) : Except Fault α :=
  match table.lookup name with
  | some a => .ok a
  | none => .error (.unknownVariant name)

/-- The value that may stand beside the name of an alternative without data. -/
def unit : Reader Unit
  | _, .null => .ok ()
  | .gathered, .obj [] true => .ok ()
  | _, source => .error source.wrongKind

/-- One of several named alternatives: its name as a text, or an object with that name as its only
field and null as its value. -/
def variant (table : List (String × α)) : Reader α
  | _, .str name => named table name
  | mode, .obj ((some name, source) :: rest) closed =>
    if mode ≠ .streamed ∧ ¬ rest.isEmpty then .error .mismatch
    else
      match named table name with
      | .error fault => .error fault
      | .ok a =>
        match unit mode source with
        | .error fault => .error fault
        | .ok () => if rest.isEmpty ∧ closed then .ok a else .error .malformed
  | .streamed, .obj _ _ => .error .malformed
  | _, source => .error source.wrongKind

end Reader

/-- A description of the fields of a record. `Slots` is what is known of them while an object is
read. -/
structure Fields (α : Type) where
  Slots : Type
  empty : Slots
  /-- Takes a field of an object; there is no answer when the field is none of these. -/
  accept : Mode → Slots → String → Source → Option (Except Fault Slots)
  /-- Puts the record together at the end of an object. -/
  collect : Slots → Except Fault α
  /-- Takes the fields from the front of an array, which is closed behind its items or not. -/
  take : Mode → List Source → Bool → Except Fault (α × List Source)

namespace Fields

variable {α β : Type}

/-- A field with what to do when it is missing. -/
def field (name : String) (read : Reader α) (missing : Except Fault α)
    (leftOut : Except Fault α) : Fields α where
  Slots := Option α
  empty := none
  accept mode slot key source :=
    if key = name then
      some <| match slot with
        | some _ => .error .mismatch
        | none => (read mode source).map some
    else none
  collect
    | some a => .ok a
    | none => missing
  take mode sources closed :=
    match sources with
    | source :: rest => (read mode source).map (·, rest)
    | [] => if closed then leftOut.map (·, []) else .error .malformed

/-- A field that has to be there. -/
def required (name : String) (read : Reader α) : Fields α :=
  field name read (.error (.missingField name)) (.error .mismatch)

/-- A field with a value of its own when it is left out. -/
def defaulted (name : String) (read : Reader α) (default : α) : Fields α :=
  field name read (.ok default) (.ok default)

/-- A field that may be left out or null. -/
def maybe (name : String) (read : Reader α) : Fields (Option α) :=
  defaulted name read.optional none

/-- A record made of other values. -/
protected def map (f : α → β) (fields : Fields α) : Fields β where
  Slots := fields.Slots
  empty := fields.empty
  accept := fields.accept
  collect slots := (fields.collect slots).map f
  take mode sources closed := (fields.take mode sources closed).map fun (a, rest) => (f a, rest)

/-- First the fields of a function, then the fields of its argument. -/
protected def seq (first : Fields (α → β)) (second : Fields α) : Fields β where
  Slots := first.Slots × second.Slots
  empty := (first.empty, second.empty)
  accept mode slots key source :=
    match first.accept mode slots.1 key source with
    | some answer => some (answer.map (·, slots.2))
    | none => (second.accept mode slots.2 key source).map fun answer => answer.map (slots.1, ·)
  collect slots :=
    match first.collect slots.1 with
    | .error fault => .error fault
    | .ok f => (second.collect slots.2).map f
  take mode sources closed :=
    match first.take mode sources closed with
    | .error fault => .error fault
    | .ok (f, rest) => (second.take mode rest closed).map fun (a, rest') => (f a, rest')

instance : Functor Fields where
  map := Fields.map

instance : Seq Fields where
  seq first second := first.seq (second ())

/-- Takes the fields of an object in their order. -/
def fold (fields : Fields α) (mode : Mode) :
    fields.Slots → List (Option String × Source) → Except Fault fields.Slots
  | slots, [] => .ok slots
  | _, (none, _) :: _ => .error .malformed
  | slots, (some key, source) :: rest =>
    match fields.accept mode slots key source with
    | some (.ok slots') => fold fields mode slots' rest
    | some (.error fault) => .error fault
    | none => if source.isComplete then fold fields mode slots rest else .error .malformed

end Fields

namespace Reader

variable {α : Type}

/-- A record, from an object or from an array of its fields. -/
def record (fields : Fields α) : Reader α
  | mode, .obj entries closed =>
    match fields.fold mode fields.empty entries with
    | .error fault => .error fault
    | .ok slots => if closed then fields.collect slots else .error .malformed
  | mode, .arr sources closed =>
    match fields.take mode sources closed with
    | .error fault => .error fault
    | .ok (a, rest) => if rest.isEmpty ∧ closed then .ok a else .error .malformed
  | _, source => .error source.wrongKind

/-- Finds the tag among the fields of an object and gathers the others. -/
def splitTag (tag : String) (pick : String → Except Fault (Reader α)) :
    Option (Reader α) → List (Option String × Source) →
      Except Fault (Option (Reader α) × List (Option String × Source))
  | found, [] => .ok (found, [])
  | _, (none, _) :: _ => .error .malformed
  | found, (some key, source) :: rest =>
    if key = tag then
      match found with
      | some _ => .error .mismatch
      | none =>
        match text .gathered source with
        | .error fault => .error fault
        | .ok name =>
          match pick name with
          | .error fault => .error fault
          | .ok read => splitTag tag pick (some read) rest
    else if source.isReadable then
      (splitTag tag pick found rest).map fun (read, others) => (read, (some key, source) :: others)
    else .error .malformed

/-- A value whose tag says how the rest of its fields is read. -/
def tagged (tag : String) (pick : String → Except Fault (Reader α)) : Reader α
  | _, .obj fields closed =>
    match splitTag tag pick none fields with
    | .error fault => .error fault
    | .ok (found, others) =>
      if closed then
        match found with
        | some read => read .gathered (.obj others true)
        | none => .error (.missingField tag)
      else .error .malformed
  | _, .arr [] closed => .error (if closed then .missingField tag else .malformed)
  | _, .arr (source :: rest) closed =>
    match text .gathered source with
    | .error fault => .error fault
    | .ok name =>
      match pick name with
      | .error fault => .error fault
      | .ok read =>
        if closed && Source.itemsReadable rest then read .gathered (.arr rest true)
        else .error .malformed
  | _, source => .error source.wrongKind

/-- A tagged value without data: whatever fields there are, they are not looked at. -/
def bare (a : α) : Reader α
  | _, .obj _ _ => .ok a
  | _, .arr [] _ => .ok a
  | _, source => .error source.wrongKind

/-- Reads a whole document. -/
def document (read : Reader α) (source : Source) (ended : Bool) : Except Fault α :=
  match read .streamed source with
  | .error fault => .error fault
  | .ok a => if ended then .ok a else .error .malformed

end Reader

end Itinerary.Json
