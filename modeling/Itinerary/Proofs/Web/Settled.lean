import Itinerary.Proofs.Query.Token
import Itinerary.Proofs.Timetable.Continuing
import Itinerary.Proofs.Timetable.Decision
import Itinerary.Web.Service

/-!
# Requests that a timetable settles

Whatever a client sends, a server over a timetable answers it or finds fault with it: no request
makes it look as if the server itself had failed (`Web.requests_settled`, `Web.status_respond_lt`).
For the handlers this only takes a backend that answers everything it is asked, except that it may
refuse a continuation (`Backend.Willing`). A timetable is one: it refuses to go on under a cursor
that names none of its pages, and it fails in no other way.

No token fails to be written either: where there is a continuation to hand out, the reply has a
token, and it is read when it comes back (`Web.TripsReply.Continues`).
-/

namespace Itinerary

open Time (Stamp)

/-- A backend that answers everything it is asked, except that it may refuse a continuation. -/
structure Backend.Willing (b : Backend) : Prop where
  suggest : ∀ text kinds limit, ∃ answer, b.suggest text kinds limit = .ok answer
  trips : ∀ query options, ∃ answer, b.trips query options = .ok answer
  more : ∀ c later failure, (b.more c later).1 = .error failure →
    ∃ detail, failure = .invalidContext detail
  departures : ∀ stopId time limit equivalent, ∃ answer,
    b.departures stopId time limit equivalent = .ok answer ∧ answer.status ≠ .serviceDown
  nearby : ∀ kinds l maxDistance limit, ∃ answer,
    b.nearby kinds l maxDistance limit = .ok answer ∧ answer.status ≠ .serviceDown

namespace Timetable

variable (t : Timetable) (now : Stamp)

/-- Places nearby are found or not found, and the service is never down. -/
theorem status_nearby_ne_serviceDown (kinds : List PlaceKind) (l : Location) (maxDistance : UInt32)
    (limit : Nat) : (t.nearby now kinds l maxDistance limit).status ≠ .serviceDown := by
  unfold nearby
  simp only
  split
  · nofun
  · nofun

/-- Departures are found or the stop is not known, and the service is never down. -/
theorem status_departuresFrom_ne_serviceDown (stopId : String) (time : Option Time.Moment)
    (limit : Nat) (equivalent : Bool) :
    (t.departuresFrom now stopId time limit equivalent).status ≠ .serviceDown := by
  unfold departuresFrom
  split
  · nofun
  · nofun

/-- Going on fails only by a refusal. -/
theorem invalidContext_of_more {c : Continuation} {later : Bool} {failure : Failure}
    (failed : (t.more now c later).1 = .error failure) :
    ∃ detail, failure = .invalidContext detail := by
  rcases cursor_trichotomy t c later with none | ⟨cursor, given, unnamed⟩ |
    ⟨cursor, n, given, named, inside⟩
  · have runsOut : t.RunsOut now c later := runsOut_of_cursor_none none
    obtain ⟨answer, ran, -⟩ := runsOut
    rw [ran] at failed
    cases failed
  · have refuses : t.Refuses now c later := refuses_of_unnamed given unnamed
    obtain ⟨detail, refused⟩ := refuses
    rw [refused] at failed
    exact ⟨detail, (Except.error.inj failed).symm⟩
  · have serves : t.Serves now c later n := serves_of_names given named inside
    obtain ⟨page, -, served⟩ := serves.answer
    rw [served] at failed
    cases failed

/-- A timetable answers everything, except that it may refuse a continuation. -/
theorem willing_backend : (t.backend now).Willing where
  suggest _ _ _ := ⟨_, rfl⟩
  trips _ _ := ⟨_, rfl⟩
  more _ _ _ failed := t.invalidContext_of_more now failed
  departures stopId time limit equivalent :=
    ⟨_, rfl, t.status_departuresFrom_ne_serviceDown now stopId time limit equivalent⟩
  nearby kinds l maxDistance limit :=
    ⟨_, rfl, t.status_nearby_ne_serviceDown now kinds l maxDistance limit⟩

end Timetable

namespace Web

/-- An outcome that is a reply or a problem of the client's own making. -/
def Settled {α : Type} (outcome : Except Problem α) : Prop :=
  ∀ problem, outcome = .error problem → problem.status = 400 ∨ problem.status = 404

/-- A reply with a token that is read when it comes back. -/
def TripsReply.Continues (r : TripsReply) : Prop :=
  ∃ token c, r.token = some token ∧ Token.decode token = .ok c

section Outcomes

variable {α : Type} {outcome : Except Problem α}

theorem settled_reply (reply : α) : Settled (.ok reply) := nofun

theorem settled_badRequest (message : String) :
    Settled (.error (.badRequest message) : Except Problem α) := by
  rintro problem ⟨⟩
  exact .inl rfl

theorem settled_notFound (message : String) :
    Settled (.error (.notFound message) : Except Problem α) := by
  rintro problem ⟨⟩
  exact .inr rfl

/-- A settled outcome makes a response without a failure of the server. -/
theorem status_of_settled (settled : Settled outcome) (write : α → Json) :
    (Response.of write outcome).status < 500 := by
  cases outcome with
  | ok reply => exact (by decide : 200 < 500)
  | error problem =>
    show problem.status < 500
    rcases settled problem rfl with bad | missing
    · rw [bad]
      decide
    · rw [missing]
      decide

end Outcomes

/-- A reply with a continuation holds a token, and the token is read. -/
theorem continues_of (answer : TripsAnswer) (c : Continuation) :
    (TripsReply.of answer (some c)).Continues :=
  ⟨_, _, rfl, Token.decode_encode_reread c⟩

/-! ## Handlers over a willing backend -/

section Willing

variable {b : Backend} (willing : b.Willing)
include willing

/-- Suggestions are settled: a backend that is willing has an answer. -/
theorem settled_suggest (r : SuggestRequest) : Settled (suggest b r) := by
  unfold suggest
  simp only
  split
  · exact settled_reply _
  · obtain ⟨answer, given⟩ := willing.suggest (Text.trim r.text) [] (min 50 (r.limit.getD 10))
    rw [given]
    exact settled_reply _

/-- Places nearby are settled: coordinates out of range are the client's own making. -/
theorem settled_nearby (r : NearbyRequest) : Settled (nearby b r) := by
  unfold nearby
  split
  · exact settled_badRequest _
  · rename_i point _
    obtain ⟨answer, given, up⟩ := willing.nearby [] (.atPoint point) (r.maxDistance.getD 0)
      (min 100 (r.limit.getD 20))
    rw [given]
    simp only
    split
    · exact settled_reply _
    · exact settled_badRequest _
    · rename_i down
      exact absurd down up

/-- All stops are gone through. -/
theorem exists_collect (time : Option Time.Moment) (limit : Nat) (equivalent : Bool)
    (reply : DeparturesReply) (ids : List String) :
    ∃ all, DeparturesReply.collect (fun id => b.departures id time limit equivalent) reply ids =
      .ok all := by
  induction ids generalizing reply with
  | nil => exact ⟨reply, rfl⟩
  | cons id ids ih =>
    obtain ⟨answer, given, up⟩ := willing.departures id time limit equivalent
    rw [DeparturesReply.collect, given]
    simp only
    split
    · exact ih _
    · exact ih _
    · rename_i down
      exact absurd down up

/-- Departures are settled: unknown stops are the client's own making, and the service is never
down. -/
theorem settled_departures (r : DeparturesRequest) : Settled (departures b r) := by
  unfold departures
  split
  · exact settled_badRequest _
  · obtain ⟨all, collected⟩ := exists_collect willing
      (r.time.map fun instant => ⟨instant, .system⟩) (min 100 (r.limit.getD 10))
      (r.equivalent.getD false) ⟨[], []⟩ r.ids
    simp only [collected]
    split
    · exact settled_notFound _
    · exact settled_reply _

/-- Queries are settled: an end that is missing is the client's own making. -/
theorem settled_trips (r : TripsRequest) : Settled (trips b r) := by
  unfold trips
  split
  · exact settled_badRequest _
  · obtain ⟨answer, given⟩ := willing.trips r.query r.options
    rw [given]
    exact settled_reply _

/-- Going on is settled: a token that is not read, or a cursor that is refused, is the client's own
making. -/
theorem settled_more (r : MoreRequest) : Settled (more b r) := by
  unfold more
  split
  · exact settled_badRequest _
  · split
    · rename_i failure next failed
      obtain ⟨detail, rfl⟩ := willing.more _ _ failure (congrArg Prod.fst failed)
      exact settled_badRequest _
    · exact settled_reply _

end Willing

/-! ## Tokens -/

/-- Every reply to a continuation has a token that is read. -/
theorem continues_of_more {b : Backend} {r : MoreRequest} {reply : TripsReply}
    (replied : more b r = .ok reply) : reply.Continues := by
  unfold more at replied
  split at replied
  · cases replied
  · split at replied
    · cases replied
    · rename_i answer next _
      cases replied
      exact continues_of answer next

/-- If it is just with the status `ok` that an answer holds a continuation, it is just with that
status that the reply has a token. -/
theorem continues_of_answer {answer : TripsAnswer}
    (handed : answer.continuation.isSome = true ↔ answer.status = .ok) :
    (answer.status = .ok → (TripsReply.of answer answer.continuation).Continues) ∧
      (answer.status ≠ .ok → (TripsReply.of answer answer.continuation).token = none) := by
  cases next : answer.continuation with
  | none =>
    rw [next] at handed
    exact ⟨fun ok => (nomatch handed.2 ok), fun _ => rfl⟩
  | some c =>
    rw [next] at handed
    exact ⟨fun _ => continues_of answer c, fun failed => absurd (handed.1 rfl) failed⟩

/-- A reply to a query has a token if its status is `ok`, and no other reply to a query has. -/
theorem continues_of_trips {t : Timetable} {now : Stamp} {r : TripsRequest} {reply : TripsReply}
    (replied : trips (t.backend now) r = .ok reply) :
    (reply.status = .ok → reply.Continues) ∧ (reply.status ≠ .ok → reply.token = none) := by
  unfold trips at replied
  split at replied
  · cases replied
  · split at replied
    · cases replied
    · rename_i answer given
      obtain rfl : t.trips now r.query r.options = answer := Except.ok.inj given
      obtain rfl := Except.ok.inj replied
      exact continues_of_answer (t.decided_trips now r.query r.options).continuation_isSome_iff

/-! ## Everything a client can send -/

/-- A query string that cannot be read is the client's own making too. -/
theorem status_ofForm {α β : Type} {read : Form → Option α} {handle : α → Except Problem β}
    (settled : ∀ r, Settled (handle r)) (write : β → Json) (target : List Char) :
    (ofForm read handle write target).status < 500 := by
  unfold ofForm
  split
  · exact (by decide : 400 < 500)
  · exact status_of_settled (settled _) write

/-- The responses to questions by query string. -/
theorem status_of_got {b : Backend} (willing : b.Willing) {target : List Char}
    {response : Response} (got : got? b target = some response) : response.status < 500 := by
  unfold got? at got
  split at got
  · obtain rfl := Option.some.inj got
    exact (by decide : 200 < 500)
  · obtain rfl := Option.some.inj got
    exact status_ofForm (settled_suggest willing) _ _
  · obtain rfl := Option.some.inj got
    exact status_ofForm (settled_nearby willing) _ _
  · obtain rfl := Option.some.inj got
    exact status_ofForm (settled_departures willing) _ _
  · cases got

/-- A body that is no query is refused like a bad request, and any other one is handled. -/
theorem exists_tripsResponse {b : Backend} (body : List UInt8) :
    (∃ message, tripsResponse b body = .of TripsReply.toJson (.error (.badRequest message))) ∨
      ∃ r, tripsResponse b body = .of TripsReply.toJson (trips b r) := by
  unfold tripsResponse
  split
  · exact .inl ⟨_, rfl⟩
  · exact .inr ⟨_, rfl⟩

/-- The responses to continuations: the kind of body, its form and the token may be wrong. -/
theorem status_moreResponse {b : Backend} (willing : b.Willing) (contentType : Option String)
    (body : List UInt8) : (moreResponse b contentType body).status < 500 := by
  unfold moreResponse
  split
  · split
    · exact (by decide : 400 < 500)
    · exact (by decide : 422 < 500)
    · exact status_of_settled (settled_more willing _) _
  · exact (by decide : 415 < 500)

/-- The responses to questions by body. -/
theorem status_of_posted {b : Backend} (willing : b.Willing) {r : Request} {response : Response}
    (posted : posted? b r = some response) : response.status < 500 := by
  unfold posted? at posted
  split at posted
  · obtain rfl := Option.some.inj posted
    obtain ⟨message, refused⟩ | ⟨asked, response⟩ := exists_tripsResponse (b := b) r.body
    · rw [refused]
      exact status_of_settled (settled_badRequest message) _
    · rw [response]
      exact status_of_settled (settled_trips willing asked) _
  · obtain rfl := Option.some.inj posted
    exact status_moreResponse willing _ _
  · cases posted

/-- Whatever is asked of a server over a timetable, the handler replies or reports a problem of the
client's own making: for every question for places, departures or trips, for all bytes where a query
should be, and for every text where a token should be. Replies to queries with the status `ok` and
all replies to continuations come with a token that is read. -/
theorem requests_settled (t : Timetable) (now : Stamp) :
    (∀ r, Settled (suggest (t.backend now) r)) ∧
      (∀ r, Settled (nearby (t.backend now) r)) ∧
      (∀ r, Settled (departures (t.backend now) r)) ∧
      (∀ body, ∃ outcome, tripsResponse (t.backend now) body = .of TripsReply.toJson outcome ∧
        Settled outcome ∧ ∀ reply, outcome = .ok reply →
          (reply.status = .ok → reply.Continues) ∧ (reply.status ≠ .ok → reply.token = none)) ∧
      ∀ r, Settled (more (t.backend now) r) ∧
        ∀ reply, more (t.backend now) r = .ok reply → reply.Continues := by
  have willing := t.willing_backend now
  refine ⟨settled_suggest willing, settled_nearby willing, settled_departures willing, ?_,
    fun r => ⟨settled_more willing r, fun reply => continues_of_more⟩⟩
  intro body
  obtain ⟨message, refused⟩ | ⟨r, asked⟩ := exists_tripsResponse (b := t.backend now) body
  · refine ⟨.error (.badRequest message), refused, settled_badRequest message, ?_⟩
    intro reply replied
    cases replied
  · exact ⟨trips (t.backend now) r, asked, settled_trips willing r,
      fun reply => continues_of_trips⟩

/-- No response to a request tells of a failure of the server. -/
theorem status_respond_lt (t : Timetable) (now : Stamp) (request : Request) :
    (respond (t.backend now) request).status < 500 := by
  have willing := t.willing_backend now
  unfold respond
  split
  · rename_i response got
    have small := status_of_got willing got
    split
    · exact small
    split
    · exact small
    · decide
  · rename_i response _ posted
    split
    · exact status_of_posted willing posted
    · decide
  · decide

end Web

end Itinerary
