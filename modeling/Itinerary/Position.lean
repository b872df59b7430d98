import Itinerary.Json.Reader
import Itinerary.Text.Blank
import Itinerary.Violation

/-!
# Positions at a station

A platform or track, sometimes with a section of it. In a text the name ends at the first blank and
the section is what follows, without the blanks around it. Stored documents hold name and section as
they are.
-/

namespace Itinerary

/-- A platform or track and, if known, a section of it. -/
structure Position where
  name : String
  «section» : Option String
  deriving DecidableEq

namespace Position

/-- The position with a name, which is trimmed and must not be blank. -/
def named (name : String) : Except Violation Position :=
  let trimmed := Text.trim name
  if trimmed = "" then .error (.badPosition name) else .ok ⟨trimmed, none⟩

/-- The position that a text such as `5 A-C` names. -/
def parse (text : String) : Except Violation Position :=
  let trimmed := Text.trimChars text.toList
  match Text.cutAtBlank trimmed with
  | none => named (String.ofList trimmed)
  | some (name, rest) =>
    match named (String.ofList name) with
    | .error violation => .error violation
    | .ok position =>
      match Text.trimChars rest with
      | [] => .ok position
      | «section» => .ok { position with «section» := some (String.ofList «section») }

/-- The position with a section. -/
def withSection (p : Position) (s : String) : Position := { p with «section» := some s }

/-- The position as riders see it. -/
def text (p : Position) : String :=
  match p.section with
  | some s => p.name ++ " " ++ s
  | none => p.name

def toJson (p : Position) : Json :=
  .obj [("name", .str p.name), ("section", .optStr p.section)]

def fields : Json.Fields Position :=
  Position.mk <$> .required "name" .text <*> .maybe "section" .text

def reader : Json.Reader Position := .record fields

end Position

end Itinerary
