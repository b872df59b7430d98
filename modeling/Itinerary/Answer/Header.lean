import Itinerary.NetworkId
import Itinerary.Time.Moment
import Itinerary.Time.Stamp

/-!
# Headers of answers

Where an answer comes from and when it was made.
-/

namespace Itinerary

open Time (Moment Stamp)

/-- Where an answer comes from and when it was made. -/
structure Header where
  network : NetworkId
  /-- The software of the backend, if it tells. -/
  server : Option String
  /-- The clock of the backend, if it tells. -/
  serverTime : Option Moment
  created : Stamp
  deriving DecidableEq

namespace Header

/-- The header of an answer that is made at a time, with nothing known about the server. -/
def plain (network : NetworkId) (now : Stamp) : Header := ⟨network, none, none, now⟩

def toJson (h : Header) : Json :=
  .obj [("network", h.network.toJson), ("server_product", .optStr h.server),
    ("server_time", .opt Moment.toJson h.serverTime), ("created_at", h.created.toJson)]

def fields : Json.Fields Header :=
  Header.mk <$> .required "network" NetworkId.reader <*> .maybe "server_product" .text <*>
    .maybe "server_time" Moment.reader <*> .required "created_at" Stamp.reader

def reader : Json.Reader Header := .record fields

end Header

end Itinerary
