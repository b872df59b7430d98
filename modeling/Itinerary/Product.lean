import Itinerary.Json.Reader
import Itinerary.Violation

/-!
# Products

A product is a kind of transport. It has a one-letter code, and a set of products is written as the
codes of its members in a fixed order (`ProductSet.codes`). Reading such a text takes the codes in
any order and any number of times, and refuses the first character that is no code.
-/

namespace Itinerary

/-- A kind of transport. -/
inductive Product where
  | highSpeedTrain
  | regionalTrain
  | suburbanTrain
  | subway
  | tram
  | bus
  | ferry
  | cablecar
  | onDemand
  | replacementService
  deriving DecidableEq

namespace Product

/-- Every product, in the order of the codes. -/
def all : List Product :=
  [highSpeedTrain, regionalTrain, suburbanTrain, subway, tram, bus, ferry, cablecar, onDemand,
    replacementService]

/-- The place of a product in that order. -/
def index : Product → Fin 10
  | highSpeedTrain => 0
  | regionalTrain => 1
  | suburbanTrain => 2
  | subway => 3
  | tram => 4
  | bus => 5
  | ferry => 6
  | cablecar => 7
  | onDemand => 8
  | replacementService => 9

/-- The code of a product. -/
def code : Product → Char
  | highSpeedTrain => 'I'
  | regionalTrain => 'R'
  | suburbanTrain => 'S'
  | subway => 'U'
  | tram => 'T'
  | bus => 'B'
  | ferry => 'F'
  | cablecar => 'C'
  | onDemand => 'P'
  | replacementService => 'E'

/-- The code that stands for a product nobody knows. -/
def unknownCode : Char := '?'

/-- The code of a product that may be unknown. -/
def codeOf : Option Product → Char
  | some p => p.code
  | none => unknownCode

/-- The product with a code. -/
def ofCode (c : Char) : Except Violation Product :=
  match all.find? (·.code = c) with
  | some p => .ok p
  | none => .error (.unknownProductCode c)

/-- The name of a product in documents. -/
def name : Product → String
  | highSpeedTrain => "HIGH_SPEED_TRAIN"
  | regionalTrain => "REGIONAL_TRAIN"
  | suburbanTrain => "SUBURBAN_TRAIN"
  | subway => "SUBWAY"
  | tram => "TRAM"
  | bus => "BUS"
  | ferry => "FERRY"
  | cablecar => "CABLECAR"
  | onDemand => "ON_DEMAND"
  | replacementService => "REPLACEMENT_SERVICE"

theorem mem_all (p : Product) : p ∈ all := by cases p <;> decide

/-- Products have different bits in a set. -/
theorem index_injective {p q : Product} (h : p.index = q.index) : p = q := by
  cases p <;> cases q <;> first | rfl | exact absurd h (by decide)

/-- A product is known by its letter. -/
theorem ofCode_code (p : Product) : ofCode p.code = .ok p := by cases p <;> rfl

def toJson (p : Product) : Json := .str p.name

def reader : Json.Reader Product := .variant (all.map fun p => (p.name, p))

end Product

/-- A set of products, one bit for each. -/
structure ProductSet where
  bits : BitVec 10
  deriving DecidableEq

namespace ProductSet

/-- The set without members. -/
def empty : ProductSet := ⟨0⟩

/-- The set of all products. -/
def full : ProductSet := ⟨BitVec.allOnes 10⟩

instance : Membership Product ProductSet where
  mem s p := s.bits.getLsb p.index = true

instance (p : Product) (s : ProductSet) : Decidable (p ∈ s) :=
  inferInstanceAs (Decidable (_ = true))

/-- The bit of one product. -/
def bit (p : Product) : BitVec 10 := BitVec.twoPow 10 p.index

/-- Whether a product is a member. -/
def contains (s : ProductSet) (p : Product) : Bool := s.bits.getLsb p.index

/-- The set with one more member. -/
def insert (s : ProductSet) (p : Product) : ProductSet := ⟨s.bits ||| bit p⟩

/-- The set without a member. -/
def erase (s : ProductSet) (p : Product) : ProductSet := ⟨s.bits &&& ~~~(bit p)⟩

/-- The products that are in one of the two sets. -/
def union (s t : ProductSet) : ProductSet := ⟨s.bits ||| t.bits⟩

/-- Whether every member of the first set is in the second. -/
def isSubset (s t : ProductSet) : Bool := s.bits &&& ~~~t.bits = 0

def isEmpty (s : ProductSet) : Bool := s.bits = 0

/-- The members, in the order of the codes. -/
def toList (s : ProductSet) : List Product := Product.all.filter s.contains

/-- How many members there are: one for each bit that is set. -/
def size (s : ProductSet) : Nat := s.bits.cpop.toNat

/-- The set of the products in a list. -/
def ofList (ps : List Product) : ProductSet := ps.foldl insert empty

/-- The codes of the members, in order. -/
def codes (s : ProductSet) : String := String.ofList (s.toList.map Product.code)

/-- Adds the products with the given codes. -/
def insertCodes : ProductSet → List Char → Except Violation ProductSet
  | s, [] => .ok s
  | s, c :: rest =>
    match Product.ofCode c with
    | .ok p => insertCodes (s.insert p) rest
    | .error violation => .error violation

/-- The set that a text of codes stands for. -/
def ofCodes (text : String) : Except Violation ProductSet := insertCodes empty text.toList

/-- The set as it is shown to developers. -/
def inspect (s : ProductSet) : String := "ProductSet(" ++ s.codes ++ ")"

def toJson (s : ProductSet) : Json := .str s.codes

def reader : Json.Reader ProductSet :=
  .refine .text fun text => (ofCodes text).mapError Violation.message

end ProductSet

end Itinerary
