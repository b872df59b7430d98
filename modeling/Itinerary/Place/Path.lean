import Itinerary.Place.Point
import Itinerary.Text.Base64

/-!
# Encoded paths

The geometry of a leg travels as one text: URL-safe base64 of a version byte, a byte that says
whether there is a path at all, and for a path the number of its points and their coordinates, each
a big-endian word of four bytes. No path and a path without points are different, and reading takes
nothing but what writing produces.
-/

namespace Itinerary

/-- A leg's geometry, or none. -/
abbrev Path : Type := Option (List Point)

namespace Path

/-- Why an encoded path was refused. -/
inductive Defect where
  /-- The text is not base64; the detail says where. -/
  | notBase64 (detail : String)
  | unsupportedVersion (version : UInt8)
  | badMarker (marker : UInt8)
  /-- Fewer bytes than the encoding announces. -/
  | truncated (expected actual : Nat)
  | trailing (count : Nat)
  deriving DecidableEq

/-- The defect in words. -/
def Defect.message : Defect → String
  | .notBase64 detail => "path is not valid base64: " ++ detail
  | .unsupportedVersion version => "unsupported path encoding version " ++ toString version.toNat
  | .badMarker marker => "invalid path marker " ++ toString marker.toNat
  | .truncated expected actual =>
    "path truncated: expected " ++ toString expected ++ " bytes, got " ++ toString actual
  | .trailing count => toString count ++ " trailing bytes after path"

/-- The version of the encoding. -/
def version : UInt8 := 1

/-- Four bytes of a word, the highest first. -/
def wordBytes (w : UInt32) : List UInt8 :=
  [(w >>> 24).toUInt8, (w >>> 16).toUInt8, (w >>> 8).toUInt8, w.toUInt8]

/-- The word of four bytes. -/
def wordOf (a b c d : UInt8) : UInt32 :=
  (a.toUInt32 <<< 24) ||| (b.toUInt32 <<< 16) ||| (c.toUInt32 <<< 8) ||| d.toUInt32

/-- The eight bytes of a point. -/
def pointBytes (p : Point) : List UInt8 :=
  wordBytes p.lat.toUInt32 ++ wordBytes p.lon.toUInt32

/-- The bytes of a path. -/
def toBytes : Path → List UInt8
  | none => [version, 0]
  | some points =>
    version :: 1 :: wordBytes (UInt32.ofNat points.length) ++ points.flatMap pointBytes

/-- As many points as the bytes hold. -/
def pointsOf : List UInt8 → List Point
  | a :: b :: c :: d :: e :: f :: g :: h :: rest =>
    ⟨(wordOf a b c d).toInt32, (wordOf e f g h).toInt32⟩ :: pointsOf rest
  | _ => []

/-- The points behind the marker of a path. -/
def pointsOfBody : List UInt8 → Except Defect (List Point)
  | a :: b :: c :: d :: rest =>
    let expected := (wordOf a b c d).toNat * 8
    if rest.length < expected then .error (.truncated (6 + expected) (6 + rest.length))
    else if expected < rest.length then .error (.trailing (rest.length - expected))
    else .ok (pointsOf rest)
  | body => .error (.truncated 6 (2 + body.length))

/-- The path that some bytes encode. -/
def ofBytes : List UInt8 → Except Defect Path
  | v :: marker :: body =>
    if v ≠ version then .error (.unsupportedVersion v)
    else if marker = 0 then
      if body.isEmpty then .ok none else .error (.trailing body.length)
    else if marker = 1 then (pointsOfBody body).map some
    else .error (.badMarker marker)
  | bytes => .error (.truncated 2 bytes.length)

/-- The text of a path. -/
def encode (path : Path) : String := Text.Base64.toText path.toBytes

/-- The path that a text encodes. -/
def decode (text : String) : Except Defect Path :=
  match Text.Base64.ofText? text with
  | some bytes => ofBytes bytes
  | none => .error (.notBase64 "no canonical encoding")

def toJson (path : Path) : Json := .str path.encode

def reader : Json.Reader Path :=
  .refine .text fun text => (decode text).mapError Defect.message

/-- The field of a record that holds its path, absent when it is left out. -/
def field : Json.Fields Path := .defaulted "path" reader none

end Path

end Itinerary
