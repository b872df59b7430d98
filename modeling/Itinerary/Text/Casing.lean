import Itinerary.Text.CasingTable
import Itinerary.Text.Ranges

/-!
# Lower-case texts

Lower-casing by the full Unicode rules, without any language's exceptions. Every character has one
lower-case form of its own, with two exceptions: a capital I with a dot becomes two characters, and
a capital sigma becomes the final form at the end of a word and the medial form elsewhere. A word
ends at a sigma when a cased letter stands before it and none stands after it, case-ignorable
characters being skipped on both sides.

What it does not establish: lower-casing does not commute with cutting a text into pieces, since the
form of a sigma depends on its neighbours.
-/

namespace Itinerary.Text

/-- The lower-case form of a code point outside ASCII, by the runs of the table. -/
def lowerCode (n : Nat) : Nat :=
  match lowerRuns.find? fun (first, last, step, _) =>
    first ≤ n && n ≤ last && (n - first) % step = 0 with
  | some (_, _, _, distance) => ((n : Int) + distance).toNat
  | none => n

/-- The lower-case form of one character, its surroundings apart. -/
def lowerChar (c : Char) : List Char :=
  if c.toNat < 128 then [c.toLower]
  else if c = '\u0130' then ['i', '\u0307']
  else [Char.ofNat (lowerCode c.toNat)]

/-- Whether the first character that is not case-ignorable is a cased letter. -/
def startsCased (cs : List Char) : Bool :=
  match cs.dropWhile fun c => inRanges caseIgnorableRanges c.toNat with
  | [] => false
  | c :: _ => inRanges casedRanges c.toNat

/-- Lower-cases what follows, `before` being the characters already passed, the nearest first. -/
def lowerFrom (before : List Char) : List Char → List Char
  | [] => []
  | c :: rest =>
    let form :=
      if c = 'Σ' then
        if startsCased before && !startsCased rest then ['ς'] else ['σ']
      else lowerChar c
    form ++ lowerFrom (c :: before) rest

/-- The text in lower case. -/
def lowercase (s : String) : String :=
  String.ofList (lowerFrom [] s.toList)

/-- Equality of texts that takes no notice of the case of ASCII letters. -/
def sameIgnoringAsciiCase (a b : String) : Bool :=
  a.toList.map Char.toLower = b.toList.map Char.toLower

/-- The text with its ASCII letters in upper case. -/
def upperAscii (s : String) : String :=
  String.ofList (s.toList.map Char.toUpper)

end Itinerary.Text
