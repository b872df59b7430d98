import Itinerary.Product

/-!
# Options of a query

What travellers want of their trips. Every backend knows these options; one that cannot honour an
option passes over it. `Options.allows` is the product filter: without a filter every line is
allowed, and with one a line of unknown product is allowed as long as the filter allows anything.
-/

namespace Itinerary

inductive WalkSpeed where
  | slow
  | normal
  | fast
  deriving DecidableEq

namespace WalkSpeed

def all : List WalkSpeed := [slow, normal, fast]

def name : WalkSpeed → String
  | slow => "slow"
  | normal => "normal"
  | fast => "fast"

def toJson (w : WalkSpeed) : Json := .str w.name

def reader : Json.Reader WalkSpeed := .variant (all.map fun w => (w.name, w))

end WalkSpeed

/-- What a trip should have least of. -/
inductive Goal where
  | leastDuration
  | leastChanges
  | leastWalking
  deriving DecidableEq

namespace Goal

def all : List Goal := [leastDuration, leastChanges, leastWalking]

def name : Goal → String
  | leastDuration => "least_duration"
  | leastChanges => "least_changes"
  | leastWalking => "least_walking"

def toJson (g : Goal) : Json := .str g.name

def reader : Json.Reader Goal := .variant (all.map fun g => (g.name, g))

end Goal

inductive Accessibility where
  | neutral
  | limited
  | barrierFree
  deriving DecidableEq

namespace Accessibility

def all : List Accessibility := [neutral, limited, barrierFree]

def name : Accessibility → String
  | neutral => "neutral"
  | limited => "limited"
  | barrierFree => "barrier_free"

def toJson (a : Accessibility) : Json := .str a.name

def reader : Json.Reader Accessibility := .variant (all.map fun a => (a.name, a))

end Accessibility

/-- What travellers want of their trips. -/
structure Options where
  /-- The products that may be used; all of them without a filter. -/
  products : Option ProductSet
  walkSpeed : WalkSpeed
  goal : Goal
  /-- The greatest number of changes between rides. -/
  maxChanges : Option UInt32
  accessibility : Accessibility
  deriving DecidableEq

namespace Options

/-- The options of a traveller who says nothing. -/
def default : Options := ⟨none, .normal, .leastDuration, none, .neutral⟩

/-- Whether a line with a product may be used. -/
def allows (o : Options) (product : Option Product) : Bool :=
  match o.products, product with
  | none, _ => true
  | some set, some p => set.contains p
  | some set, none => !set.isEmpty

def toJson (o : Options) : Json :=
  .obj [("products", .opt ProductSet.toJson o.products), ("walk_speed", o.walkSpeed.toJson),
    ("optimize", o.goal.toJson), ("max_changes", .opt (fun n => .int n.toNat) o.maxChanges),
    ("accessibility", o.accessibility.toJson)]

def fields : Json.Fields Options :=
  Options.mk <$> .maybe "products" ProductSet.reader <*>
    .defaulted "walk_speed" WalkSpeed.reader .normal <*>
    .defaulted "optimize" Goal.reader .leastDuration <*> .maybe "max_changes" .uint32 <*>
    .defaulted "accessibility" Accessibility.reader .neutral

def reader : Json.Reader Options := .record fields

end Options

end Itinerary
