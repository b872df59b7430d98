import Itinerary.Decimal.Fixed
import Itinerary.Json.Reader

/-!
# Fares

The price of a trip for one group of passengers. Amounts are whole numbers of the smallest unit of
the currency, a hundredth, so nothing is rounded.
-/

namespace Itinerary

/-- A group of passengers with a price of its own. -/
inductive Passenger where
  | adult
  | child
  | youth
  | student
  | military
  | senior
  | disabled
  | bike
  deriving DecidableEq

namespace Passenger

def all : List Passenger := [adult, child, youth, student, military, senior, disabled, bike]

def name : Passenger → String
  | adult => "ADULT"
  | child => "CHILD"
  | youth => "YOUTH"
  | student => "STUDENT"
  | military => "MILITARY"
  | senior => "SENIOR"
  | disabled => "DISABLED"
  | bike => "BIKE"

def toJson (p : Passenger) : Json := .str p.name

def reader : Json.Reader Passenger := .variant (all.map fun p => (p.name, p))

end Passenger

/-- A price as one network quotes it. -/
structure Fare where
  network : String
  passenger : Passenger
  currency : String
  /-- Hundredths of the currency. -/
  amount : Int64
  name : Option String
  /-- What the units of the fare are called, such as zones. -/
  unitsName : Option String
  units : Option String
  deriving DecidableEq

namespace Fare

/-- The amount with two places, in front of it a minus sign where it is negative. -/
def amountChars (amount : Int) : List Char :=
  let body := Decimal.pointed 2 amount.natAbs
  if amount < 0 then '-' :: body else body

/-- The fare as riders see it. -/
def text (f : Fare) : String :=
  String.ofList (amountChars f.amount.toInt ++ ' ' :: f.currency.toList)

def toJson (f : Fare) : Json :=
  .obj [("network", .str f.network), ("type", f.passenger.toJson), ("currency", .str f.currency),
    ("amount", .int f.amount.toInt), ("name", .optStr f.name),
    ("units_name", .optStr f.unitsName), ("units", .optStr f.units)]

def fields : Json.Fields Fare :=
  Fare.mk <$> .required "network" .text <*> .required "type" Passenger.reader <*>
    .required "currency" .text <*> .required "amount" .int64 <*> .maybe "name" .text <*>
    .maybe "units_name" .text <*> .maybe "units" .text

def reader : Json.Reader Fare := .record fields

end Fare

end Itinerary
