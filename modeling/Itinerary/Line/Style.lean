import Itinerary.Json.Reader
import Itinerary.Text.Hex

/-!
# The look of a line

The badge of a line has a shape and up to three colours. A colour is a word of four bytes, alpha
first. In texts it is a number sign and hexadecimal digits: six for an opaque colour, eight with
alpha; one plus sign in front of the digits counts among the six or eight.
-/

namespace Itinerary

/-- The shape of a badge. -/
inductive Shape where
  | rect
  | rounded
  | circle
  deriving DecidableEq

namespace Shape

def all : List Shape := [rect, rounded, circle]

def name : Shape → String
  | rect => "rect"
  | rounded => "rounded"
  | circle => "circle"

def toJson (s : Shape) : Json := .str s.name

def reader : Json.Reader Shape := .variant (all.map fun s => (s.name, s))

end Shape

/-- The look of a badge. -/
structure Style where
  shape : Shape
  background : UInt32
  foreground : UInt32
  border : Option UInt32
  deriving DecidableEq

namespace Style

/-- The number that hexadecimal digits stand for; at least one digit. -/
def hexNumber? : List Char → Option Nat
  | [] => none
  | cs => cs.foldlM (fun n c => (Text.Hex.value? c).map (n * 16 + ·)) 0

/-- The number written in hexadecimal, a plus sign in front being allowed. -/
def signedHex? : List Char → Option Nat
  | '+' :: rest => hexNumber? rest
  | cs => hexNumber? cs

/-- The colour that a text stands for. -/
def colour? (text : String) : Option UInt32 :=
  match text.toList with
  | '#' :: digits =>
    match signedHex? digits with
    | some n =>
      if digits.length = 6 then some (0xFF000000 ||| UInt32.ofNat n)
      else if digits.length = 8 then some (UInt32.ofNat n)
      else none
    | none => none
  | _ => none

def colourJson (c : UInt32) : Json := .int c.toNat

def toJson (s : Style) : Json :=
  .obj [("shape", s.shape.toJson), ("background_color", colourJson s.background),
    ("foreground_color", colourJson s.foreground), ("border_color", .opt colourJson s.border)]

def fields : Json.Fields Style :=
  Style.mk <$> .defaulted "shape" Shape.reader .rect <*> .required "background_color" .uint32 <*>
    .required "foreground_color" .uint32 <*> .maybe "border_color" .uint32

def reader : Json.Reader Style := .record fields

end Style

end Itinerary
