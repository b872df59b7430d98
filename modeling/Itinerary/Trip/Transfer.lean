import Itinerary.Json.Reader

/-!
# Transfers

How likely it is that a change between two rides works out. A probability that is computed is
brought between zero and one first (`Transfer.ofProbability`); one that a document states is taken
as it is.
-/

namespace Itinerary

/-- What is known about one change between rides. -/
structure Transfer where
  probability : Float
  /-- The least number of minutes that the backend reckons with. -/
  minutes : Option UInt32

namespace Transfer

/-- A probability brought between zero and one; what is no number counts as zero. -/
def clamped (p : Float) : Float :=
  if p.isNaN then 0.0
  else if p < 0.0 then 0.0
  else if 1.0 < p then 1.0
  else p

/-- The transfer with a probability. -/
def ofProbability (p : Float) (minutes : Option UInt32) : Transfer := ⟨clamped p, minutes⟩

def toJson (t : Transfer) : Json :=
  .obj [("probability", .number t.probability),
    ("min_transfer_minutes", .opt (fun m => .int m.toNat) t.minutes)]

def fields : Json.Fields Transfer :=
  Transfer.mk <$> .required "probability" .float <*> .maybe "min_transfer_minutes" .uint32

def reader : Json.Reader Transfer := .record fields

end Transfer

end Itinerary
