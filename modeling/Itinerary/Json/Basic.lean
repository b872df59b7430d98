/-!
# JSON values

The values that are written. The fields of an object are a list of pairs in the order in which they
are written; a whole number and a number with a fraction are different values.

An object that is looked into has its fields in the order of their names, one under each name
(`Json.byKey`).
-/

namespace Itinerary

/-- A JSON value. -/
inductive Json where
  | null
  | bool (b : Bool)
  | int (i : Int)
  | float (x : Float)
  | str (s : String)
  | arr (items : List Json)
  | obj (fields : List (String × Json))
  deriving Inhabited

namespace Json

/-- A number that is not finite is written as null. -/
def number (x : Float) : Json := if x.isFinite then .float x else .null

/-- An absent value is written as null. -/
def opt {α : Type} (write : α → Json) : Option α → Json
  | none => .null
  | some a => write a

/-- A list of values. -/
def list {α : Type} (write : α → Json) (as : List α) : Json :=
  .arr (as.map write)

/-- An optional text. -/
def optStr (s : Option String) : Json := opt .str s

/-- Entries with one more in its place by key, where it takes the place of an earlier one. -/
def insertByKey {α : Type} (key : String) (value : α) :
    List (String × α) → List (String × α)
  | [] => [(key, value)]
  | (k, v) :: rest =>
    if key < k then (key, value) :: (k, v) :: rest
    else if key = k then (key, value) :: rest
    else (k, v) :: insertByKey key value rest

/-- Entries in the order of their keys; of several entries with one key the last one counts. -/
def byKey {α : Type} (entries : List (String × α)) : List (String × α) :=
  entries.foldl (fun sorted (key, value) => insertByKey key value sorted) []

/-- The fields of an object, and none of anything else. -/
def fields : Json → List (String × Json)
  | .obj entries => entries
  | _ => []

/-- The field of an object under a name, if it has one. -/
def get? (j : Json) (name : String) : Option Json := j.fields.lookup name

/-- Whether there is a field under a name. -/
def has (j : Json) (name : String) : Bool := (j.get? name).isSome

/-- The items of a list, and none of anything else. -/
def items : Json → List Json
  | .arr js => js
  | _ => []

/-- The characters of a text, and nothing of anything else. -/
def str? : Json → Option String
  | .str s => some s
  | _ => none

end Json

end Itinerary
