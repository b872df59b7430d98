import Itinerary.Json.Basic

/-!
# Settings of a connection

How a backend is reached over HTTP.
-/

namespace Itinerary.Http

/-- How a backend is reached. -/
structure Settings where
  /-- The address in front of every path. -/
  base : String
  key : Option String
  /-- The name of the header that carries the key. -/
  keyHeader : String
  /-- How many requests may be under way at once. -/
  concurrency : Nat
  /-- Seconds after which a request is given up. -/
  timeout : Nat
  deriving DecidableEq

namespace Settings

/-- The settings for an address about which nothing else is said. -/
def forBase (base : String) : Settings := ⟨base, none, "x-apikey", 5, 30⟩

def toJson (s : Settings) : Json :=
  .obj [("base_url", .str s.base), ("api_key", .optStr s.key),
    ("api_key_header", .str s.keyHeader), ("max_concurrent", .int s.concurrency),
    ("timeout_secs", .int s.timeout)]

end Settings

end Itinerary.Http
