import Itinerary.Json.Basic

/-!
# What a JSON text says

A text is read from left to right, and what is wrong with it is noticed where the reading arrives.
`Source` keeps that order: it is a JSON value as far as the text can be followed, with marks where
it cannot. A value that starts wrongly is `broken`; a list or an object that is not closed in the
right way is open; a number beyond every float, a text with half a surrogate pair and a value nested
too deeply are well-formed on the page but stand for no value, so skipping passes over them and
reading refuses them.

A whole number is one only if it is written without fraction and exponent, is not minus zero and
fits a 64-bit word, signed or unsigned; every other number is a float.
-/

namespace Itinerary.Json

/-- A JSON value as far as its text can be followed. -/
inductive Source where
  | null
  | bool (b : Bool)
  | int (i : Int)
  | float (x : Float)
  | str (s : String)
  | arr (items : List Source) (closed : Bool)
  | obj (fields : List (Option String × Source)) (closed : Bool)
  | unreadable
  | broken
  deriving Inhabited

mutual

/-- A written value as a source: everything is closed and readable. -/
def toSource : Json → Source
  | .null => .null
  | .bool b => .bool b
  | .int i => .int i
  | .float x => .float x
  | .str s => .str s
  | .arr items => .arr (itemSources items) true
  | .obj fields => .obj (fieldSources fields) true

/-- The items of a written list. -/
def itemSources : List Json → List Source
  | [] => []
  | item :: rest => item.toSource :: itemSources rest

/-- The fields of a written object. -/
def fieldSources : List (String × Json) → List (Option String × Source)
  | [] => []
  | (name, value) :: rest => (some name, value.toSource) :: fieldSources rest

end

namespace Source

mutual

/-- Whether skipping over the value finds its end. -/
def isComplete : Source → Bool
  | .arr items closed => closed && itemsComplete items
  | .obj fields closed => closed && fieldsComplete fields
  | .broken => false
  | _ => true

def itemsComplete : List Source → Bool
  | [] => true
  | item :: rest => item.isComplete && itemsComplete rest

def fieldsComplete : List (Option String × Source) → Bool
  | [] => true
  | (_, value) :: rest => value.isComplete && fieldsComplete rest

end

mutual

/-- Whether the whole value can be read into memory. -/
def isReadable : Source → Bool
  | .arr items closed => closed && itemsReadable items
  | .obj fields closed => closed && fieldsReadable fields
  | .broken => false
  | .unreadable => false
  | _ => true

def itemsReadable : List Source → Bool
  | [] => true
  | item :: rest => item.isReadable && itemsReadable rest

def fieldsReadable : List (Option String × Source) → Bool
  | [] => true
  | (name, value) :: rest => name.isSome && value.isReadable && fieldsReadable rest

end

mutual

/-- The value that a readable source stands for, objects being ready to be looked into. Parts that
stand for nothing are null. -/
def value : Source → Json
  | .bool b => .bool b
  | .int i => .int i
  | .float x => .float x
  | .str s => .str s
  | .arr items _ => .arr (itemValues items)
  | .obj fields _ => .obj (byKey (fieldValues fields))
  | .null => .null
  | .unreadable => .null
  | .broken => .null

def itemValues : List Source → List Json
  | [] => []
  | item :: rest => item.value :: itemValues rest

def fieldValues : List (Option String × Source) → List (String × Json)
  | [] => []
  | (name, item) :: rest => (name.getD "", item.value) :: fieldValues rest

end

/-! ## Bytes that are no text

A text with such bytes inside is well-formed on the page too. Read with two different marks in the
place of the bytes, it comes out as two different texts, while all else comes out the same.
-/

mutual

/-- What two readings of the same bytes agree on; texts that differ stand for no value. -/
def agreed : Source → Source → Source
  | .str s, .str t => if s = t then .str s else .unreadable
  | .arr items closed, .arr others _ => .arr (itemsAgreed items others) closed
  | .obj fields closed, .obj others _ => .obj (fieldsAgreed fields others) closed
  | source, _ => source

def itemsAgreed : List Source → List Source → List Source
  | item :: rest, other :: others => item.agreed other :: itemsAgreed rest others
  | _, _ => []

def fieldsAgreed : List (Option String × Source) → List (Option String × Source) →
    List (Option String × Source)
  | (name, value) :: rest, (otherName, other) :: others =>
    (if name = otherName then name else none, value.agreed other) :: fieldsAgreed rest others
  | _, _ => []

end

/-! ## Nesting

Gathering a value follows it into its lists and objects, and only so far. Skipping has no such
limit.
-/

/-- The greatest number of lists and objects in one another that are read. -/
def depthLimit : Nat := 127

mutual

/-- The value with only so many lists and objects in one another: those further inside can be
skipped as before and are not to be read. -/
def within (depth : Nat) : Source → Source
  | .arr items closed =>
    match depth with
    | 0 => if closed && itemsComplete items then .unreadable else .broken
    | depth + 1 => .arr (itemsWithin depth items) closed
  | .obj fields closed =>
    match depth with
    | 0 => if closed && fieldsComplete fields then .unreadable else .broken
    | depth + 1 => .obj (fieldsWithin depth fields) closed
  | .null => .null
  | .bool b => .bool b
  | .int i => .int i
  | .float x => .float x
  | .str s => .str s
  | .unreadable => .unreadable
  | .broken => .broken

def itemsWithin (depth : Nat) : List Source → List Source
  | [] => []
  | item :: rest => item.within depth :: itemsWithin depth rest

def fieldsWithin (depth : Nat) :
    List (Option String × Source) → List (Option String × Source)
  | [] => []
  | (name, value) :: rest => (name, value.within depth) :: fieldsWithin depth rest

end

end Source

end Itinerary.Json
