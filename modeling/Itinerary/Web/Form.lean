import Itinerary.Text.Hex
import Itinerary.Text.Number
import Itinerary.Text.Utf8
import Itinerary.Decimal.Reading

/-!
# Forms

The part of an address behind the question mark is a form: pairs of a name and a value between
ampersands. A plus sign stands for a blank and a percent sign with two hexadecimal digits for a
byte; a percent sign with anything else behind it stands for itself. The bytes are read as UTF-8,
leniently.

A parameter is given at most once. `Form.required` and `Form.maybe` read one and have no answer when
it is given twice or has no value of its type, also where it may be left out.
-/

namespace Itinerary.Web

/-- The hexadecimal digit that a byte is. -/
def hexByte? (b : UInt8) : Option Nat := Text.Hex.value? (Char.ofNat b.toNat)

/-- The byte that two hexadecimal digits behind a percent sign stand for. -/
def escaped? (b high low : UInt8) : Option UInt8 :=
  if b = 37 then
    match hexByte? high, hexByte? low with
    | some h, some l => some (UInt8.ofNat (h * 16 + l))
    | _, _ => none
  else none

/-- The byte that a byte of its own stands for. -/
def plain (b : UInt8) : UInt8 := if b = 43 then 32 else b

/-- The bytes that the bytes of a form stand for. -/
def unescape : List UInt8 → List UInt8
  | [] => []
  | b :: high :: low :: more =>
    match escaped? b high low with
    | some c => c :: unescape more
    | none => plain b :: unescape (high :: low :: more)
  | b :: rest => plain b :: unescape rest

/-- The text that a piece of a form stands for. -/
def unescaped (piece : List Char) : String :=
  String.ofList (Text.Utf8.decode (unescape (String.ofList piece).toUTF8.toList))

/-- Names and values, in order. -/
structure Form where
  pairs : List (String × String)

namespace Form

/-- The pieces between separators; there is at least one. -/
def pieces (separator : Char) : List Char → List (List Char)
  | [] => [[]]
  | c :: rest =>
    if c = separator then [] :: pieces separator rest
    else
      match pieces separator rest with
      | [] => [[c]]
      | piece :: more => (c :: piece) :: more

/-- The name and the value of a piece; without an equals sign the value is empty. -/
def pair (piece : List Char) : String × String :=
  (unescaped (piece.takeWhile (· ≠ '=')), unescaped ((piece.dropWhile (· ≠ '=')).drop 1))

/-- The form in a text. -/
def ofText (text : String) : Form :=
  ⟨((pieces '&' text.toList).filter fun piece => !piece.isEmpty).map pair⟩

/-- The values under a name. -/
def values (f : Form) (name : String) : List String :=
  (f.pairs.filter (·.1 = name)).map Prod.snd

/-- A parameter that has to be given. -/
def required {α : Type} (f : Form) (name : String) (read : String → Option α) : Option α :=
  match f.values name with
  | [value] => read value
  | _ => none

/-- A parameter that may be left out. -/
def maybe {α : Type} (f : Form) (name : String) (read : String → Option α) : Option (Option α) :=
  match f.values name with
  | [] => some none
  | [value] => (read value).map some
  | _ => none

end Form

/-- A count that fits 64 bits. -/
def count? (text : String) : Option Nat := Text.unsigned? UInt64.size text.toList

/-- A number of metres. -/
def metres? (text : String) : Option UInt32 :=
  (Text.unsigned? UInt32.size text.toList).map UInt32.ofNat

/-- An instant in milliseconds. -/
def instant? (text : String) : Option Int64 :=
  (Text.integer? (UInt64.size / 2) text.toList).map Int64.ofInt

/-- A truth value. -/
def truth? (text : String) : Option Bool :=
  if text = "true" then some true else if text = "false" then some false else none

end Itinerary.Web
