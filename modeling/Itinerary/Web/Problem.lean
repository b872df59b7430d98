import Itinerary.Backend.Failure
import Itinerary.Query.Token

/-!
# Problems with requests

What a client is told when a request has no answer: a status and one text. A failure of the backend
is the client's fault only where the client sent a continuation that the backend cannot go on from.
-/

namespace Itinerary.Web

/-- Why a request has no answer. -/
inductive Problem where
  | badRequest (message : String)
  | notFound (message : String)
  | notImplemented (message : String)
  | badGateway (message : String)
  | internal (message : String)
  deriving DecidableEq

namespace Problem

/-- The problem that a failure of the backend is to the client. -/
def ofFailure (f : Failure) : Problem :=
  match f with
  | .invalidContext _ => badRequest f.message
  | .unsupported _ => notImplemented f.message
  | .file .. => internal f.message
  | _ => badGateway f.message

/-- The problem that a token of our own is when it is none. -/
def ofDefect (d : Token.Defect) : Problem := internal d.message

def status : Problem → Nat
  | badRequest _ => 400
  | notFound _ => 404
  | notImplemented _ => 501
  | badGateway _ => 502
  | internal _ => 500

def message : Problem → String
  | badRequest m => m
  | notFound m => m
  | notImplemented m => m
  | badGateway m => m
  | internal m => m

/-- The problem when a backend reports that it is out of service. -/
def serviceDown : Problem := badGateway "Backend service is down"

def toJson (p : Problem) : Json := .obj [("error", .str p.message)]

end Problem

end Itinerary.Web
