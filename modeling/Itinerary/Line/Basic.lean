import Itinerary.Line.Style
import Itinerary.Product

/-!
# Lines

A line is known by network, product and label; the rest of what is told about it may differ from one
answer to the next. `Line.same` is that comparison.
-/

namespace Itinerary

/-- A line as one answer describes it. -/
structure Line where
  id : Option String
  network : Option String
  product : Option Product
  /-- The short name that riders know. -/
  label : Option String
  name : Option String
  style : Option Style
  message : Option String
  deriving DecidableEq

namespace Line

/-- The line with nothing known but id, network, product and label. -/
def plain (id network : Option String) (product : Option Product) (label : Option String) : Line :=
  ⟨id, network, product, label, none, none, none⟩

/-- Whether two descriptions are of the same line. -/
def same (a b : Line) : Bool :=
  a.network = b.network && a.product = b.product && a.label = b.label

/-- The code of the line's product. -/
def productCode (l : Line) : Char := Product.codeOf l.product

def toJson (l : Line) : Json :=
  .obj [("id", .optStr l.id), ("network", .optStr l.network),
    ("product", .opt Product.toJson l.product), ("label", .optStr l.label),
    ("name", .optStr l.name), ("style", .opt Style.toJson l.style),
    ("message", .optStr l.message)]

def fields : Json.Fields Line :=
  Line.mk <$> .maybe "id" .text <*> .maybe "network" .text <*> .maybe "product" Product.reader <*>
    .maybe "label" .text <*> .maybe "name" .text <*> .maybe "style" Style.reader <*>
    .maybe "message" .text

def reader : Json.Reader Line := .record fields

end Line

end Itinerary
