import Itinerary.Decimal.Shortest
import Itinerary.Text.Quoted

/-!
# Broken rules of the model

Some values of the model cannot be built from every input: a trip needs a leg, a network id has an
alphabet, a coordinate has bounds. A `Violation` names the rule that was broken and what broke it;
its message is the one text that is shown for it everywhere.
-/

namespace Itinerary

/-- A rule of the model that an input breaks. -/
inductive Violation where
  /-- A trip without legs. -/
  | emptyTrip
  /-- A stop without the time that its place on the leg needs. -/
  | missingTime (what : String)
  | unknownProductCode (code : Char)
  | badPosition (text : String)
  | badNetworkId (text : String)
  /-- Degrees that are no coordinate. -/
  | badCoordinate (lat lon : Float)
  /-- The number of a leg that the trip does not have. -/
  | noSuchLeg (index : Nat)

/-- The violation in words. -/
def Violation.message : Violation → String
  | .emptyTrip => "trip must have at least one leg"
  | .missingTime what => "missing required time data: " ++ what
  | .unknownProductCode code => "invalid product code: " ++ Text.quotedChar code
  | .badPosition text => "invalid position: " ++ Text.quoted text
  | .badNetworkId text => "invalid network id: " ++ Text.quoted text
  | .badCoordinate lat lon =>
    "invalid coordinate: " ++ Decimal.positional lat ++ ", " ++ Decimal.positional lon
  | .noSuchLeg index => "leg index " ++ toString index ++ " out of bounds"

end Itinerary
