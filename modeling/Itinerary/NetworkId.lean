import Itinerary.Json.Reader
import Itinerary.Text.Blank
import Itinerary.Text.Casing
import Itinerary.Violation

/-!
# Network ids

A network is one operator's name space of ids. Its own id has one to 32 characters, each a capital
ASCII letter, a digit or an underscore. Reading is exact; `normalized` first trims the text and puts
its ASCII letters in upper case, as users type it.
-/

namespace Itinerary

/-- The characters of a network id. -/
def isNetworkChar (c : Char) : Bool := c.isUpper || c.isDigit || c = '_'

/-- What a network id looks like. -/
def isNetworkText (s : String) : Bool :=
  let cs := s.toList
  !cs.isEmpty && cs.length ≤ 32 && cs.all isNetworkChar

/-- The id of a network. -/
structure NetworkId where
  text : String
  valid : isNetworkText text = true
  deriving DecidableEq

namespace NetworkId

/-- The id written in a text. -/
def parse (text : String) : Except Violation NetworkId :=
  if h : isNetworkText text = true then .ok ⟨text, h⟩ else .error (.badNetworkId text)

/-- The id written in a text that a user typed. -/
def normalized (text : String) : Except Violation NetworkId :=
  parse (Text.upperAscii (Text.trim text))

/-- The id as it is shown to developers. -/
def inspect (n : NetworkId) : String := "NetworkId(" ++ n.text ++ ")"

def toJson (n : NetworkId) : Json := .str n.text

def reader : Json.Reader NetworkId :=
  .refine .text fun text => (parse text).mapError Violation.message

end NetworkId

end Itinerary
