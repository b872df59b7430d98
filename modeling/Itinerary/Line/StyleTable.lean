import Itinerary.Line.Basic

/-!
# Style tables

A table gives styles to lines: to one labelled line of a network, to all lines of a product within a
network, or to a product everywhere. Its keys are texts, network, product code and label with bars
between them, and a later entry under a key replaces an earlier one. A look-up tries the key with
the label, then the one of the network, then the one of the product alone.

What it does not establish: texts that hold bars themselves may share a key with other ones.
-/

namespace Itinerary

/-- Styles by key, the latest entry first, every key at most once. -/
structure StyleTable where
  entries : List (String × Style)

namespace StyleTable

/-- The table without entries. -/
def empty : StyleTable := ⟨[]⟩

/-- The key of a product in a network, narrowed to a label if there is one. -/
def key (network : Option String) (product : Option Product) (label : Option String) : String :=
  let base := network.getD "" ++ "|" ++ String.singleton (Product.codeOf product)
  match label with
  | some l => base ++ "|" ++ l
  | none => base

/-- The table with an entry under a key, in the place of an earlier one. -/
def insert (t : StyleTable) (k : String) (style : Style) : StyleTable :=
  ⟨(k, style) :: t.entries.filter (·.1 ≠ k)⟩

/-- The style under a key. -/
def find? (t : StyleTable) (k : String) : Option Style := t.entries.lookup k

/-- The table with a style for one labelled line. -/
def withLine (t : StyleTable) (network : Option String) (product : Option Product)
    (label : String) (style : Style) : StyleTable :=
  t.insert (key network product (some label)) style

/-- The table with a style for the lines of a product. -/
def withProduct (t : StyleTable) (network : Option String) (product : Product)
    (style : Style) : StyleTable :=
  t.insert (key network (some product) none) style

/-- The style for a line: by label, else by network, else by product. -/
def lookup (t : StyleTable) (network : Option String) (product : Option Product)
    (label : Option String) : Option Style :=
  (label.bind fun l => t.find? (key network product (some l)))
    <|> (network.bind fun n => t.find? (key (some n) product none))
    <|> t.find? (key none product none)

def size (t : StyleTable) : Nat := t.entries.length

end StyleTable

/-- The line with a style from the table, unless it came with one. -/
def Line.styled (l : Line) (t : StyleTable) : Line :=
  { l with style := l.style <|> t.lookup l.network l.product l.label }

end Itinerary
