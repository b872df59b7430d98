import Itinerary.Proofs.Query.ReadBack
import Itinerary.Proofs.Timetable.Window
import Itinerary.Timetable.Backend
import Itinerary.Web.Handler

/-!
# Paging without a session

A client goes on with a query by the token of the last reply, and the server keeps nothing. What the
client is shown is the same as if a single continuation had been moved on in place
(`Web.replies_simulate`). Two facts carry this. A token is read as the continuation that it was made
of, so nothing is lost on the way to the client and back (`Token.decode_encode`). And no reply shows
when it was made, so the two sides need not have the same clock, and a token that is sent again
later is answered as before (`Web.more_time`).

The continuation of a query keeps the time of the query. Its offset is genuine because the query was
read from a body.
-/

namespace Itinerary

open Time (Stamp)

/-! ## Time of no account -/

namespace Web

/-- A trip does not show when it was created. -/
theorem view_createdAt (trip : Trip) (now : Stamp) :
    TripView.of (trip.createdAt now) = TripView.of trip := rfl

/-- The trips of a page look the same at any time. -/
theorem map_view_serve (page : Page) (origin : Location) (via : Option Location)
    (destination : Location) (options : Options) (now other : Stamp) :
    (Timetable.serve other page origin via destination options).map TripView.of =
      (Timetable.serve now page origin via destination options).map TripView.of := by
  rw [Timetable.serve_createdAt now other, List.map_map]
  exact List.map_congr_left fun trip _ => view_createdAt trip other

/-- Answers with trips that look the same are shown in the same way. -/
theorem of_found {trips others : List Trip} (header other : Header) (origin : Location)
    (via : Option Location) (destination : Location) (continuation next : Option Continuation)
    (same : others.map TripView.of = trips.map TripView.of) :
    TripsReply.of (.found other origin via destination continuation others) next =
      TripsReply.of (.found header origin via destination continuation trips) next := by
  simp only [TripsReply.of, TripsAnswer.found, same]

/-- Between the same places, answers at different times differ in nothing that a reply shows. -/
theorem of_tripsBetween_time (t : Timetable) (query : Query) (options : Options)
    (origin : Location) (via : Option Location) (destination : Location) (now other : Stamp)
    (next : Option Continuation) :
    TripsReply.of (t.tripsBetween other query options origin via destination) next =
        TripsReply.of (t.tripsBetween now query options origin via destination) next ∧
      (t.tripsBetween other query options origin via destination).continuation =
        (t.tripsBetween now query options origin via destination).continuation := by
  unfold Timetable.tripsBetween
  split
  · exact ⟨rfl, rfl⟩
  split
  · refine ⟨of_found _ _ _ _ _ _ _ ?_, rfl⟩
    cases t.pages[t.firstPage]? with
    | none => rfl
    | some page => exact map_view_serve page _ _ _ _ now other
  · exact ⟨rfl, rfl⟩

/-- A reply to a query does not show when it was made. -/
theorem of_trips_time (t : Timetable) (query : Query) (options : Options) (now other : Stamp)
    (next : Option Continuation) :
    TripsReply.of (t.trips other query options) next =
        TripsReply.of (t.trips now query options) next ∧
      (t.trips other query options).continuation = (t.trips now query options).continuation := by
  unfold Timetable.trips
  simp only
  split
  · exact ⟨rfl, rfl⟩
  split
  · exact of_tripsBetween_time t query options _ none _ now other next
  · exact of_tripsBetween_time t query options _ _ _ now other next
  all_goals exact ⟨rfl, rfl⟩

/-- The reply to a question for more, once its token is read. -/
def replyOf : Except Failure TripsAnswer × Continuation → Except Problem TripsReply
  | (.error failure, _) => .error (.ofFailure failure)
  | (.ok answer, next) => .ok (.of answer (some next))

/-- A token that is read as a continuation goes on with that continuation. -/
theorem more_of_decode (t : Timetable) (now : Stamp) {token : String} {later : Bool}
    {c : Continuation} (h : Token.decode token = .ok c) :
    more (t.backend now) ⟨token, later⟩ = replyOf (t.more now c later) := by
  rw [more, h]
  rfl

/-- A reply to a continuation does not show when it was made. -/
theorem replyOf_more (t : Timetable) (c : Continuation) (later : Bool) (now other : Stamp) :
    replyOf (t.more other c later) = replyOf (t.more now c later) := by
  cases h : c.cursor later with
  | none =>
    rw [Timetable.more_of_cursor_none h, Timetable.more_of_cursor_none h]
    rfl
  | some cursor =>
    cases hpage : t.pageAt cursor with
    | error failure =>
      have failed (time : Stamp) : t.more time c later = (.error failure, c) := by
        rw [Timetable.more, h]
        simp only [hpage]
      rw [failed, failed]
    | ok found =>
      obtain ⟨n, page⟩ := found
      rw [Timetable.more_of_pageAt h hpage, Timetable.more_of_pageAt h hpage]
      refine congrArg Except.ok (of_found _ _ _ _ _ _ _ ?_)
      exact map_view_serve page _ _ _ _ now other

/-- A token that is sent again at another time has the reply that it had before. -/
theorem more_time (t : Timetable) (request : MoreRequest) (now other : Stamp) :
    more (t.backend other) request = more (t.backend now) request := by
  obtain ⟨token, later⟩ := request
  cases h : Token.decode token with
  | error defect =>
    rw [more, more, h]
  | ok c =>
    rw [more_of_decode t other h, more_of_decode t now h, replyOf_more t c later now other]

/-! ## Replies in step with a continuation -/

/-- What a reply shows of an answer and of the continuation that holds afterwards. -/
structure Shows (reply : TripsReply) (a : TripsAnswer) (c : Option Continuation) : Prop where
  status : reply.status = a.status
  origin : reply.origin = a.origin
  via : reply.via = a.via
  destination : reply.destination = a.destination
  trips : reply.trips = a.trips.map TripView.of
  token : reply.token.map Token.decode = c.map .ok
  earlier : reply.canGoEarlier = c.any fun c => c.earlierCursor.isSome
  later : reply.canGoLater = c.any fun c => c.laterCursor.isSome

/-- A reply shows the answer that it is made from, and its token is read as the continuation. -/
theorem shows_of (a : TripsAnswer) {c : Option Continuation}
    (genuine : ∀ c' ∈ c, c'.query.time.offset.Genuine) : Shows (.of a c) a c where
  status := rfl
  origin := rfl
  via := rfl
  destination := rfl
  trips := rfl
  token := by
    cases c with
    | none => rfl
    | some c => exact congrArg some (Token.decode_encode (genuine c rfl))
  earlier := rfl
  later := rfl

/-- The replies to a client that goes on turn by turn, each time with the token of the reply
before. -/
def replies (t : Timetable) : TripsReply → List Turn → List (Except Problem TripsReply)
  | _, [] => []
  | reply, turn :: turns =>
    match reply.token with
    | none => []
    | some token =>
      match more (t.backend turn.now) ⟨token, turn.later⟩ with
      | .error problem => [.error problem]
      | .ok next => .ok next :: replies t next turns

/-- The answers to someone who moves one continuation on in place, each with the continuation that
holds afterwards. -/
def answersInPlace (t : Timetable) :
    Continuation → List Turn → List (Except Failure TripsAnswer × Continuation)
  | _, [] => []
  | c, turn :: turns =>
    let step := t.more turn.now c turn.later
    step :: answersInPlace t step.2 turns

/-- A reply in step with an answer and the continuation after it. -/
def InStep (reply : Except Problem TripsReply)
    (step : Except Failure TripsAnswer × Continuation) : Prop :=
  ∃ r a, reply = .ok r ∧ step.1 = .ok a ∧ Shows r a (some step.2)

/-- One turn on both sides, at any two times. -/
theorem inStep_more (t : Timetable) (now other : Stamp) {c : Continuation} {later : Bool}
    {a : TripsAnswer} (genuine : c.query.time.offset.Genuine)
    (ok : (t.more other c later).1 = .ok a) :
    ∃ r, more (t.backend now) ⟨Token.encode c, later⟩ = .ok r ∧
      r.token = some (Token.encode (t.more other c later).2) ∧
      Shows r a (some (t.more other c later).2) := by
  have kept : (t.more other c later).2.query.time.offset.Genuine := by
    rw [t.query_more]
    exact genuine
  refine ⟨.of a (some (t.more other c later).2), ?_, rfl, shows_of a ?_⟩
  · rw [← more_time t _ now other, more_of_decode t other (Token.decode_encode genuine)]
    show replyOf ((t.more other c later).1, (t.more other c later).2) = _
    rw [ok]
    rfl
  · rintro c' ⟨⟩
    exact kept

/-- Any number of turns, the times on the two sides being free. -/
theorem forall₂_replies {t : Timetable} {c : Continuation} {p : Paging} {low high : Nat}
    (w : Paging.Window t c p low high) (fits : t.pages.length ≤ UInt64.size)
    (genuine : c.query.time.offset.Genuine) {reply : TripsReply}
    (token : reply.token = some (Token.encode p.continuation)) {turns others : List Turn}
    (same : turns.map Turn.later = others.map Turn.later) :
    List.Forall₂ InStep (replies t reply turns) (answersInPlace t p.continuation others) := by
  -- The token of each reply stands for the continuation that is moved on in place.
  induction turns generalizing p low high reply others with
  | nil =>
    obtain rfl : others = [] := List.map_eq_nil_iff.1 same.symm
    exact .nil
  | cons turn turns ih =>
    cases others with
    | nil => contradiction
    | cons other others =>
      obtain ⟨direction, rest⟩ := List.cons.inj same
      have here : p.continuation.query.time.offset.Genuine := by
        rw [w.continuation]
        exact genuine
      obtain ⟨a, ok⟩ := w.exists_ok fits other.now other.later
      obtain ⟨low', high', w'⟩ := w.step fits other
      obtain ⟨r, answered, next, shown⟩ := inStep_more t turn.now other.now here ok
      have first : replies t reply (turn :: turns) = .ok r :: replies t r turns := by
        rw [replies, token]
        simp only [direction, answered]
      rw [first]
      exact .cons ⟨r, a, rfl, ok, shown⟩ (ih w' next rest)

/-! ## Requests -/

namespace TripsRequest

/-- No request asks for a time whose offset would not come back: offsets are read from their words.
-/
theorem gives_genuine : reader.Gives fun r => r.query.time.offset.Genuine := by
  refine Json.Fields.Gives.record <| .seq (fun _ => True) ?_ (.of_forall fun _ => trivial)
  have inside := Query.gives_genuine.mono fun _ genuine (_ : Options) (_ : True) => genuine
  exact .map (.field inside (fun _ none => nomatch none) fun _ none => nomatch none)

/-- A request that is read has a time with a genuine offset. -/
theorem genuine_of_ofBytes {bytes : List UInt8} {r : TripsRequest} (read : ofBytes bytes = .ok r) :
    r.query.time.offset.Genuine := by
  rw [ofBytes] at read
  exact gives_genuine.document read

/-- Every request with a genuine offset is read from some bytes. -/
theorem ofBytes_text {q : Query} (o : Options) (genuine : q.time.offset.Genuine) :
    ofBytes (Json.obj [("query", q.toJson), ("options", o.toJson)]).text.toUTF8.toList =
      .ok ⟨q, o⟩ := by
  have plain : (Json.obj [("query", q.toJson), ("options", o.toJson)]).Plain 127 :=
    ⟨q.plain 123, o.plain 125, trivial⟩
  have back : reader.ReadsBack
      (fun r => Json.obj [("query", r.query.toJson), ("options", r.options.toJson)]) ⟨q, o⟩ :=
    Json.Fields.Reads.record <|
      Json.Fields.Reads.map TripsRequest.mk (.field (Query.readsBack genuine))
        |>.seq (.field o.readsBack) (by simp)
  rw [ofBytes, Json.scanBytes_text plain]
  exact back.document

end TripsRequest

/-! ## The simulation -/

/-- A request with both ends is answered by the timetable. -/
theorem trips_backend (t : Timetable) (now : Stamp) {r : TripsRequest}
    (ends : r.missingEnd? = none) :
    trips (t.backend now) r =
      .ok (.of (t.trips now r.query r.options) (t.trips now r.query r.options).continuation) := by
  rw [trips, ends]
  rfl

/-- A client that asks for trips and goes on with the token of each reply is shown what one
continuation that is moved on in place gives, turn by turn, whatever the times on the two sides
are; no turn fails. Whenever there is a token it is read as that continuation, and earlier or later
trips are offered where that continuation has a cursor. A token that is sent again has the reply
that it had before. -/
theorem replies_simulate (t : Timetable) (body : List UInt8) (r : TripsRequest)
    (fits : t.pages.length ≤ UInt64.size) (read : TripsRequest.ofBytes body = .ok r)
    (ends : r.missingEnd? = none) (now other : Stamp) :
    ∃ reply, trips (t.backend now) r = .ok reply ∧
      Shows reply (t.trips other r.query r.options)
        (t.trips other r.query r.options).continuation ∧
      (∀ c, (t.trips other r.query r.options).continuation = some c →
        ∀ turns others : List Turn, turns.map Turn.later = others.map Turn.later →
          List.Forall₂ InStep (replies t reply turns) (answersInPlace t c others)) ∧
      ∀ request time time',
        more (t.backend time') request = more (t.backend time) request := by
  obtain ⟨shown, same⟩ := of_trips_time t r.query r.options now other
    (t.trips now r.query r.options).continuation
  have genuine : ∀ c ∈ (t.trips other r.query r.options).continuation,
      c.query.time.offset.Genuine := by
    intro c given
    rw [Timetable.continuation_time given]
    exact TripsRequest.genuine_of_ofBytes read
  -- Offsets in a query that was read are genuine, so its tokens stand for what they were made of.
  refine ⟨_, trips_backend t now ends, ?_, ?_, fun request time time' =>
    more_time t request time time'⟩
  · rw [← shown, ← same]
    exact shows_of _ genuine
  · intro c given turns others directions
    obtain ⟨c', given', -, -, -, -, first⟩ :=
      Paging.window_start (Timetable.status_of_continuation given)
    obtain rfl : c = c' := Option.some.inj (given.symm.trans given')
    refine forall₂_replies first fits (genuine c given) ?_ directions
    rw [← same, given]
    rfl

/-- The shuttle, asked for by a body, and gone on with to both ends and once more. -/
theorem replies_simulate_shuttle :
    ∃ body r, Paging.shuttle.pages.length ≤ UInt64.size ∧ TripsRequest.ofBytes body = .ok r ∧
      r.missingEnd? = none ∧
      ∃ reply, trips (Paging.shuttle.backend ⟨0, 0⟩) r = .ok reply ∧
        reply.canGoEarlier = true ∧ reply.canGoLater = true ∧
        (replies Paging.shuttle reply
          [⟨⟨1, 0⟩, true⟩, ⟨⟨2, 0⟩, false⟩, ⟨⟨3, 0⟩, true⟩]).length = 3 := by
  have fits : Paging.shuttle.pages.length ≤ UInt64.size := by decide
  have read := TripsRequest.ofBytes_text (q := Paging.shuttleQuery) .default rfl
  have ends : (TripsRequest.mk Paging.shuttleQuery .default).missingEnd? = none := by rfl
  obtain ⟨reply, answered, shown, inStep, -⟩ :=
    replies_simulate Paging.shuttle _ _ fits read ends ⟨0, 0⟩ ⟨9, 0⟩
  have steps := inStep _ rfl [⟨⟨1, 0⟩, true⟩, ⟨⟨2, 0⟩, false⟩, ⟨⟨3, 0⟩, true⟩]
    [⟨⟨4, 0⟩, true⟩, ⟨⟨5, 0⟩, false⟩, ⟨⟨6, 0⟩, true⟩] rfl
  exact ⟨_, _, fits, read, ends, reply, answered, shown.earlier, shown.later, steps.length_eq⟩

end Web

end Itinerary
