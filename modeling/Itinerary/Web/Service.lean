import Itinerary.Web.Handler

/-!
# The service

A request is a method, an address, a content type and a body; a response is a status and a body. The
path of the address says what is asked, letter by letter. A path that is none has no method, and a
path that is one has a single method, except that what can be got can also be asked for without the
body.

A continuation is asked for in JSON only, and the content type has to say so; a query takes what
comes.
-/

namespace Itinerary.Web

/-- The methods of requests, as far as they matter. -/
inductive Method where
  | get
  | head
  | post
  | other
  deriving DecidableEq

/-- The method with a name. -/
def Method.ofName : String → Method
  | "GET" => get
  | "HEAD" => head
  | "POST" => post
  | _ => other

/-- A request. -/
structure Request where
  method : Method
  /-- Path and form of the address. -/
  target : String
  contentType : Option String
  body : List UInt8

/-- What a response holds. -/
inductive Body where
  | none
  | text (s : String)
  | json (j : Json)

/-- A response. -/
structure Response where
  status : Nat
  body : Body

namespace Response

/-- A response without a body. -/
def bare (status : Nat) : Response := ⟨status, .none⟩

/-- The response with a reply or a problem. -/
def of {α : Type} (write : α → Json) : Except Problem α → Response
  | .ok reply => ⟨200, .json (write reply)⟩
  | .error problem => ⟨problem.status, .json problem.toJson⟩

/-- The response without its body. -/
def headOnly (r : Response) : Response := bare r.status

end Response

/-! ## Content types -/

/-- The characters of a word in a content type. -/
def isTokenChar (c : Char) : Bool :=
  c.isAlphanum || "!#$%&'*+-.^_\u0060|~".toList.contains c

/-- A place among the parameters of a content type: in a name, in a value, in a value between
quotes, or behind the closing quote. The flag says whether anything of it was read. -/
inductive ParameterState where
  | name (started : Bool)
  | value (started : Bool)
  | quoted (started : Bool)
  | closed

/-- Whether the rest of some parameters is well-formed. Between quotes any visible ASCII goes. -/
def parametersFrom : ParameterState → List Char → Bool
  | .name started, [] => !started
  | .value _, [] => true
  | .quoted _, [] => false
  | .closed, [] => true
  | .name started, c :: rest =>
    if c = ' ' ∧ !started then parametersFrom (.name false) rest
    else if isTokenChar c then parametersFrom (.name true) rest
    else if c = '=' ∧ started then parametersFrom (.value false) rest
    else false
  | .value started, c :: rest =>
    if c = '"' ∧ !started then parametersFrom (.quoted false) rest
    else if isTokenChar c then parametersFrom (.value true) rest
    else if c = ';' ∧ started then parametersFrom (.name false) rest
    else false
  | .quoted started, c :: rest =>
    if c = '"' ∧ started then parametersFrom .closed rest
    else if 31 < c.toNat ∧ c.toNat < 127 then parametersFrom (.quoted true) rest
    else false
  | .closed, c :: rest =>
    if c = ';' then parametersFrom (.name false) rest
    else if c = ' ' then parametersFrom .closed rest
    else false

/-- Whether a subtype is JSON or a format on top of JSON: what stands before the last plus sign, or
what stands behind it, is the word. -/
def isJsonSubtype (subtype : List Char) : Bool :=
  let json := ['j', 's', 'o', 'n']
  let behind := (subtype.reverse.takeWhile (· ≠ '+')).reverse
  if behind.length + 1 < subtype.length then
    subtype.take (subtype.length - behind.length - 1) = json || behind = json
  else subtype = json

/-- Whether a content type is JSON, in upper or lower case. -/
def isJsonType (contentType : String) : Bool :=
  match (contentType.toList.map Char.toLower).splitAt 12 with
  | (lead, rest) =>
    let subtype := rest.takeWhile isTokenChar
    lead = "application/".toList && !subtype.isEmpty && isJsonSubtype subtype
      && (match rest.dropWhile isTokenChar with
        | [] => true
        | c :: parameters => c = ';' && parametersFrom (.name false) parameters)

/-! ## Paths -/

/-- The path of an address. -/
def pathOf (target : List Char) : String :=
  String.ofList (target.takeWhile fun c => c ≠ '?' && c ≠ '#')

/-- The form of an address. -/
def formOf (target : List Char) : Form :=
  Form.ofText (String.ofList
    (((target.takeWhile (· ≠ '#')).dropWhile (· ≠ '?')).drop 1))

/-- The response to a request that is made of parameters. -/
def ofForm {α β : Type} (read : Form → Option α) (handle : α → Except Problem β)
    (write : β → Json) (target : List Char) : Response :=
  match read (formOf target) with
  | none => .bare 400
  | some r => .of write (handle r)

/-- The response to a query in a body. -/
def tripsResponse (b : Backend) (body : List UInt8) : Response :=
  match TripsRequest.ofBytes body with
  | .error fault =>
    .of TripsReply.toJson (.error (.badRequest ("Invalid JSON: " ++ fault.message)))
  | .ok r => .of TripsReply.toJson (trips b r)

/-- The response to a continuation in a body. What is no JSON is refused in another way than JSON
of another shape, and what comes behind the value is not looked at. -/
def moreResponse (b : Backend) (contentType : Option String) (body : List UInt8) : Response :=
  if contentType.any isJsonType then
    match MoreRequest.reader .streamed (Json.scanBytes body).source with
    | .error .malformed => .bare 400
    | .error _ => .bare 422
    | .ok r => .of TripsReply.toJson (more b r)
  else .bare 415

/-- What can be got under a path. -/
def got? (b : Backend) (target : List Char) : Option Response :=
  match pathOf target with
  | "/health" => some ⟨200, .text "ok"⟩
  | "/locations/suggest" =>
    some (ofForm SuggestRequest.ofForm? (suggest b) PlacesReply.toJson target)
  | "/locations/nearby" =>
    some (ofForm NearbyRequest.ofForm? (nearby b) PlacesReply.toJson target)
  | "/departures" =>
    some (ofForm DeparturesRequest.ofForm? (departures b) DeparturesReply.toJson target)
  | _ => none

/-- What can be posted under a path. -/
def posted? (b : Backend) (r : Request) : Option Response :=
  match pathOf r.target.toList with
  | "/trips" => some (tripsResponse b r.body)
  | "/trips/more" => some (moreResponse b r.contentType r.body)
  | _ => none

/-- The response to a request. -/
def respond (b : Backend) (r : Request) : Response :=
  match got? b r.target.toList, posted? b r with
  | some response, _ =>
    if r.method = .get then response
    else if r.method = .head then response.headOnly
    else .bare 405
  | none, some response => if r.method = .post then response else .bare 405
  | none, none => .bare 404

end Itinerary.Web
