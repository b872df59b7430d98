import Itinerary.NetworkId
import Itinerary.Place.Location

/-!
# References to trips

A note of the network and the ends of the query that produced a trip. Two references are the same if
they name the same network, whatever the ends; `Reference.sameEnds` compares those.
-/

namespace Itinerary

/-- The network and the ends of a query. -/
structure Reference where
  network : NetworkId
  origin : Location
  via : Option Location
  destination : Location
  deriving DecidableEq

namespace Reference

def same (a b : Reference) : Bool := a.network = b.network

def sameEnds (a b : Reference) : Bool :=
  a.origin = b.origin && a.via = b.via && a.destination = b.destination

def toJson (r : Reference) : Json :=
  .obj [("network", r.network.toJson), ("from", r.origin.toJson),
    ("via", .opt Location.toJson r.via), ("to", r.destination.toJson)]

def fields : Json.Fields Reference :=
  Reference.mk <$> .required "network" NetworkId.reader <*> .required "from" Location.reader <*>
    .maybe "via" Location.reader <*> .required "to" Location.reader

def reader : Json.Reader Reference := .record fields

end Reference

end Itinerary
