import Itinerary.Backend.Failure
import Itinerary.Http.Settings
import Itinerary.Json.Scan
import Itinerary.Timetable.Basic

/-!
# Asking over HTTP

A client puts addresses together, sends its key along and turns what comes back into a text, a value
or a failure. The network is a function from a call to the reply to it: what the client does with a
reply can be said without one. Nothing is asked twice.
-/

namespace Itinerary.Http

/-- What is sent: an address, pairs for the form behind it, and a header. -/
structure Call where
  address : String
  form : List (String × String)
  header : Option (String × String)

/-- What comes back. -/
structure Reply where
  status : Nat
  body : String

/-- The network: the reply to a call, or what went wrong on the way. -/
abbrev Network : Type := Call → Except String Reply

/-- The network from which nothing comes back. -/
def Network.unreachable : Network := fun _ => .error "network unreachable"

/-- Whether a text can be the name of a header. -/
def isHeaderName (name : String) : Bool :=
  let cs := name.toList
  !cs.isEmpty && cs.all fun c => c.isAlphanum || "!#$%&'*+-.^_\u0060|~".toList.contains c

/-- Whether a text can be the value of a header: no controls but the tab. -/
def isHeaderValue (value : String) : Bool :=
  value.toList.all fun c => (32 ≤ c.toNat || c = '\t') && c.toNat ≠ 127

/-- A client. -/
structure Client where
  /-- The address in front of every path, without slashes at its end. -/
  base : String
  /-- The header with the key. -/
  header : Option (String × String)

namespace Client

/-- The text without the slashes at its end. -/
def withoutTrailingSlashes (s : String) : String :=
  String.ofList (s.toList.reverse.dropWhile (· = '/')).reverse

/-- The client for some settings, if their key can be sent. -/
def build (s : Settings) : Except Failure Client :=
  let client header : Client := ⟨withoutTrailingSlashes s.base, header⟩
  match s.key with
  | none => .ok (client none)
  | some key =>
    if !isHeaderName s.keyHeader then
      .error (.api 0 ("Invalid API key header: " ++ s.keyHeader))
    else if !isHeaderValue key then .error (.api 0 "Invalid API key format")
    else .ok (client (some (s.keyHeader, key)))

/-- The address of a path; the empty path is the client's own address. -/
def address (c : Client) (path : String) : String :=
  match path.toList.dropWhile (· = '/') with
  | [] => c.base
  | rest => c.base ++ "/" ++ String.ofList rest

/-- The body of a reply, if its status is one of success. -/
def bodyOf (r : Reply) : Except Failure String :=
  if r.status = 401 then .error .unauthorized
  else if r.status = 429 then .error .rateLimited
  else if 200 ≤ r.status ∧ r.status < 300 then .ok r.body
  else .error (.api r.status r.body)

/-- The text under a path. -/
def text (c : Client) (network : Network) (path : String) (form : List (String × String)) :
    Except Failure String :=
  match network ⟨c.address path, form, c.header⟩ with
  | .error detail => .error (.transport detail)
  | .ok reply => bodyOf reply

/-- The value in a body; `context` says in a failure what was asked for. -/
def parse {α : Type} (read : Json.Reader α) (context body : String) : Except Failure α :=
  let document := Json.scan body
  (Json.Reader.document read document.source document.ended).mapError fun fault =>
    .notUnderstood context fault.message (some body)

/-- The value under a path. -/
def value {α : Type} (c : Client) (network : Network) (read : Json.Reader α) (context path : String)
    (form : List (String × String)) : Except Failure α :=
  match c.text network path form with
  | .error failure => .error failure
  | .ok body => parse read context body

/-- The timetable under a path. -/
def timetable (c : Client) (network : Network) (path : String) : Except Failure Timetable :=
  c.value network Timetable.reader "fixture" path []

end Client

end Itinerary.Http
