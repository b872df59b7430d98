import Itinerary.Place.Point
import Itinerary.Product

/-!
# Locations

A location is a place as some answer describes it; nearly everything about it may be missing. What
it can be recognised by is its id, or else its coordinate: `Location.identity` is that text, and it
is empty for a location with neither. A location of which little is known has a constructor of its
own (`Location.atPoint`, `Location.stationOf`, `Location.ofId`, `Location.ofName`).
-/

namespace Itinerary

/-- What kind of place a location is. -/
inductive PlaceKind where
  /-- Any kind: a question, not an answer. -/
  | any
  | station
  | poi
  | address
  | coord
  deriving DecidableEq

namespace PlaceKind

def all : List PlaceKind := [any, station, poi, address, coord]

def name : PlaceKind → String
  | any => "ANY"
  | station => "STATION"
  | poi => "POI"
  | address => "ADDRESS"
  | coord => "COORD"

/-- The kind as a word for a place about which nothing else is known. -/
def word : PlaceKind → String
  | any => "Any"
  | station => "Station"
  | poi => "Poi"
  | address => "Address"
  | coord => "Coord"

def toJson (k : PlaceKind) : Json := .str k.name

def reader : Json.Reader PlaceKind := .variant (all.map fun k => (k.name, k))

end PlaceKind

/-- A place as an answer describes it. -/
structure Location where
  kind : PlaceKind
  id : Option String
  coord : Option Point
  /-- The town or district. -/
  place : Option String
  name : Option String
  /-- The products that stop there, if known. -/
  products : Option ProductSet
  deriving DecidableEq

namespace Location

/-- A bare coordinate. -/
def atPoint (p : Point) : Location := ⟨.coord, none, some p, none, none, none⟩

/-- A station with an id and a name. -/
def stationOf (id name : String) : Location := ⟨.station, some id, none, none, some name, none⟩

/-- A place of which nothing but the id is known. -/
def ofId (kind : PlaceKind) (id : String) : Location := ⟨kind, some id, none, none, none, none⟩

/-- A place of which nothing but the name is known. -/
def ofName (kind : PlaceKind) (name : String) : Location :=
  ⟨kind, none, none, none, some name, none⟩

/-- The id, unless it is empty. -/
def properId (l : Location) : Option String :=
  match l.id with
  | some id => if id = "" then none else some id
  | none => none

def hasId (l : Location) : Bool := l.properId.isSome

def hasCoord (l : Location) : Bool := l.coord.isSome

def hasName (l : Location) : Bool := l.name.isSome

/-- Whether the location can be recognised by id or coordinate. -/
def isIdentified (l : Location) : Bool := l.hasId || l.hasCoord

/-- The id, else the coordinate, else nothing, as a text. -/
def identity (l : Location) : String :=
  match l.properId with
  | some id => id
  | none =>
    match l.coord with
    | some p => p.text
    | none => ""

/-- Whether both have the same id, and it is not empty. -/
def sameId (a b : Location) : Bool := a.hasId && a.id = b.id

/-- Whether both have the same name and the same place; without a name there is no match. -/
def sameNameAndPlace (a b : Location) : Bool :=
  a.hasName && a.name = b.name && a.place = b.place

/-- Name and place, else the name, else whatever tells the location apart best. -/
def title (l : Location) : String :=
  match l.name, l.place with
  | some name, some place => name ++ ", " ++ place
  | some name, none => name
  | none, _ =>
    match l.id, l.coord with
    | some id, _ => id
    | none, some p => p.text
    | none, none => l.kind.word

/-- The distance in metres, if both coordinates are known. -/
def distance (a b : Location) : Option Float := do
  let p ← a.coord
  let q ← b.coord
  pure (p.distance q)

def toJson (l : Location) : Json :=
  .obj [("type", l.kind.toJson), ("id", .optStr l.id), ("coord", .opt Point.toJson l.coord),
    ("place", .optStr l.place), ("name", .optStr l.name),
    ("products", .opt ProductSet.toJson l.products)]

def fields : Json.Fields Location :=
  Location.mk <$> .required "type" PlaceKind.reader <*> .maybe "id" .text <*>
    .maybe "coord" Point.reader <*> .maybe "place" .text <*> .maybe "name" .text <*>
    .maybe "products" ProductSet.reader

def reader : Json.Reader Location := .record fields

end Location

end Itinerary
