import Itinerary.Json.Printer
import Itinerary.Json.Scan
import Itinerary.Query.Continuation
import Itinerary.Text.Base64
import Itinerary.Text.Blank

/-!
# Continuations as tokens

Whoever serves many clients keeps no state for them: the continuation travels to the client and back
as a token, the URL-safe base64 of its compact JSON text. Blanks around a token do not count.
-/

namespace Itinerary.Token

/-- Why a text is not the token of a continuation. -/
inductive Defect where
  | notBase64
  /-- The bytes are not a continuation as JSON. -/
  | noContinuation (fault : Json.Fault)
  deriving DecidableEq

/-- The defect in words. -/
def Defect.message : Defect → String
  | .notBase64 => "context token is not valid base64: no canonical encoding"
  | .noContinuation fault =>
    "context token does not hold a pagination context: " ++ fault.message

/-- The token of a continuation. -/
def encode (c : Continuation) : String :=
  Text.Base64.toText c.toJson.text.toUTF8.toList

/-- The continuation that some bytes are as a JSON text. -/
def ofBytes (bytes : List UInt8) : Except Json.Fault Continuation :=
  let document := Json.scanBytes bytes
  Json.Reader.document Continuation.reader document.source document.ended

/-- The continuation of a token. -/
def decode (token : String) : Except Defect Continuation :=
  match Text.Base64.ofText? (Text.trim token) with
  | none => .error .notBase64
  | some bytes => (ofBytes bytes).mapError .noContinuation

end Itinerary.Token
