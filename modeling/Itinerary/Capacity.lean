import Itinerary.Json.Reader

/-!
# Seat capacity

How full a vehicle is expected to be in each of two classes. Levels are ordered from low to full,
and a level that nobody knows is below all of them.
-/

namespace Itinerary

/-- How full a vehicle is. -/
inductive Occupancy where
  | low
  | medium
  | high
  | full
  deriving DecidableEq

namespace Occupancy

def all : List Occupancy := [low, medium, high, full]

def name : Occupancy → String
  | low => "LOW"
  | medium => "MEDIUM"
  | high => "HIGH"
  | full => "FULL"

/-- The level as a number, zero being left for a level that is not known. -/
def rank : Option Occupancy → Nat
  | none => 0
  | some low => 1
  | some medium => 2
  | some high => 3
  | some full => 4

def toJson (o : Occupancy) : Json := .str o.name

def reader : Json.Reader Occupancy := .variant (all.map fun o => (o.name, o))

end Occupancy

/-- The expected levels of both classes. -/
structure Capacity where
  first : Option Occupancy
  second : Option Occupancy
  deriving DecidableEq

namespace Capacity

/-- The fuller of the two classes. -/
def worst (c : Capacity) : Option Occupancy :=
  if Occupancy.rank c.first ≤ Occupancy.rank c.second then c.second else c.first

def toJson (c : Capacity) : Json :=
  .obj [("first_class", .opt Occupancy.toJson c.first),
    ("second_class", .opt Occupancy.toJson c.second)]

def fields : Json.Fields Capacity :=
  Capacity.mk <$> .maybe "first_class" Occupancy.reader <*> .maybe "second_class" Occupancy.reader

def reader : Json.Reader Capacity := .record fields

end Capacity

end Itinerary
