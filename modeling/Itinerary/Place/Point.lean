import Itinerary.Decimal.Fixed
import Itinerary.Json.Reader
import Itinerary.Violation

/-!
# Points on the globe

A coordinate in millionths of a degree. Whole numbers make points comparable and their texts stable:
the text of a point has exactly six places and is an identity for places without an id.

Distances are along great circles on a sphere with the mean radius of the earth, by the haversine
formula on floats. What it does not establish: that a distance is a number. A point keeps whatever
whole numbers it is given, and for a latitude beyond the poles the formula may have no answer. An
order by distance therefore compares ranks (`Point.distanceRank`).
-/

namespace Itinerary

/-- Latitude and longitude in millionths of a degree. -/
structure Point where
  lat : Int32
  lon : Int32
  deriving DecidableEq

namespace Point

/-- Whether a float is a number within a bound, on both sides of zero. -/
def within (bound x : Float) : Bool := x.isFinite && x.abs ≤ bound

/-- Degrees in millionths, a half being rounded away from zero. -/
def micro (degrees : Float) : Int32 := (degrees * 1000000.0).round.toInt32

/-- The point at some degrees of latitude and longitude. -/
def ofDegrees (lat lon : Float) : Except Violation Point :=
  if within 90.0 lat && within 180.0 lon then .ok ⟨micro lat, micro lon⟩
  else .error (.badCoordinate lat lon)

/-- Millionths as degrees. -/
def degrees (e6 : Int32) : Float := Float.ofInt e6.toInt / 1000000.0

/-- A number of millionths with six places. -/
def microChars (e6 : Int) : List Char :=
  let body := Decimal.pointed 6 e6.natAbs
  if e6 < 0 then '-' :: body else body

/-- The point as a text: latitude, a comma, longitude. -/
def text (p : Point) : String :=
  String.ofList (microChars p.lat.toInt ++ ',' :: microChars p.lon.toInt)

/-- The mean radius of the earth in metres. -/
def earthRadius : Float := 6371008.8

/-- Degrees as radians. -/
def radians (degrees : Float) : Float := degrees * (3.14159265358979323846 / 180.0)

/-- The haversine of the angle under which the middle of the earth sees two points. Rounding can
carry it above one, and a latitude beyond a pole, whose cosine may be negative, to either side of
the interval from zero to one. -/
def haversine (a b : Point) : Float :=
  let phi1 := radians (degrees a.lat)
  let phi2 := radians (degrees b.lat)
  let dPhi := radians (degrees b.lat - degrees a.lat)
  let dLambda := radians (degrees b.lon - degrees a.lon)
  let sinPhi := (dPhi / 2.0).sin
  let sinLambda := (dLambda / 2.0).sin
  sinPhi * sinPhi + phi1.cos * phi2.cos * (sinLambda * sinLambda)

/-- The distance between two points in metres. It is no number where the haversine lies outside its
interval. -/
def distance (a b : Point) : Float := earthRadius * (2.0 * (haversine a b).sqrt.asin)

/-- The rank of a distance in an order by distance. It is the distance itself, if that is a number.
A haversine below zero comes before every distance, and one above one after all of them, so that
ranks are always numbers and their order is total. -/
def distanceRank (a b : Point) : Float :=
  let h := haversine a b
  if h < 0.0 then -1.0
  else if 1.0 < h.sqrt then 1.0 / 0.0
  else distance a b

def toJson (p : Point) : Json :=
  .obj [("lat_e6", .int p.lat.toInt), ("lon_e6", .int p.lon.toInt)]

def fields : Json.Fields Point :=
  Point.mk <$> .required "lat_e6" .int32 <*> .required "lon_e6" .int32

def reader : Json.Reader Point := .record fields

end Point

end Itinerary
