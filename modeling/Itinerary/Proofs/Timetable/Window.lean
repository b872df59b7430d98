import Itinerary.Proofs.Timetable.Serving
import Mathlib.Data.List.Perm.Basic

/-!
# The pages that a run has served

Whoever goes on with a query, earlier and later in any order and as often as they like, has at each
time been served the pages from one number to another, each of them once, and the continuation holds
the cursors of the two pages around these (`Paging.run_contiguous`). The invariant is
`Paging.Window`; one turn keeps it or moves one of its ends by one page (`Paging.Window.step`), and
so does a run (`Paging.Window.run`).

A page number is read from a cursor only where it fits a 64-bit word. All of this is therefore about
timetables whose pages can be counted in one.
-/

namespace Itinerary

open Time (Moment Stamp)

/-- Going on with a query: when, and in which direction. -/
structure Turn where
  now : Stamp
  later : Bool

/-- A query under way. -/
structure Paging where
  continuation : Continuation
  /-- The pages that were served, in order: when, and with which number. -/
  served : List (Stamp × Nat)
  /-- All answers, in order, the one to the new query included. -/
  answers : List (Except Failure TripsAnswer)

namespace Paging

/-- The page that a continuation goes on with: the one that its cursor names, if the timetable has
it. -/
def next? (t : Timetable) (c : Continuation) (later : Bool) : Option Nat :=
  ((c.cursor later).bind Cursor.page?).filter (· < t.pages.length)

/-- After the answer to a new query, with the continuation that came with it. -/
def start (t : Timetable) (now : Stamp) (answer : TripsAnswer) (c : Continuation) : Paging :=
  ⟨c, [(now, t.firstPage)], [.ok answer]⟩

/-- After one more turn. -/
def step (t : Timetable) (p : Paging) (turn : Turn) : Paging where
  continuation := (t.more turn.now p.continuation turn.later).2
  served := p.served ++ (next? t p.continuation turn.later).toList.map (turn.now, ·)
  answers := p.answers ++ [(t.more turn.now p.continuation turn.later).1]

/-- After some more turns. -/
def run (t : Timetable) (p : Paging) (turns : List Turn) : Paging := turns.foldl (step t) p

/-- The trips that an answer brings. -/
def tripsOf : Except Failure TripsAnswer → List Trip
  | .ok answer => answer.trips
  | .error _ => []

/-- The trips that came with each answer. -/
def batches (p : Paging) : List (List Trip) := p.answers.map tripsOf

/-- All trips so far, in order. -/
def trips (p : Paging) : List Trip := p.batches.flatten

variable {t : Timetable} {c : Continuation} {p : Paging} {turn : Turn} {low high n : Nat}
  {page : Page}

/-! ## One turn -/

/-- The trips of all answers so far, and those of one more. -/
theorem trips_answered (c : Continuation) (served : List (Stamp × Nat))
    (answers : List (Except Failure TripsAnswer)) (answer : TripsAnswer) :
    trips ⟨c, served, answers ++ [.ok answer]⟩ =
      (answers.map tripsOf).flatten ++ answer.trips := by
  rw [trips, batches, List.map_append, List.flatten_append]
  show _ ++ (answer.trips ++ []) = _
  rw [List.append_nil]

/-- A turn in a direction without a cursor changes nothing but that an answer without trips is
added. -/
theorem step_of_cursor_none (h : p.continuation.cursor turn.later = none) :
    p.step t turn =
      { p with answers := p.answers ++ [.ok (t.ranOut turn.now p.continuation)] } := by
  have nothing : next? t p.continuation turn.later = none := by
    rw [next?, h]
    rfl
  rw [step, t.more_of_cursor_none h, nothing]
  simp only [Option.toList_none, List.map_nil, List.append_nil]

/-- A turn with a cursor that was handed out brings the page that it names. -/
theorem step_of_ofPage (fits : n < UInt64.size)
    (h : p.continuation.cursor turn.later = some (Cursor.ofPage n))
    (hpage : t.pages[n]? = some page) :
    p.step t turn =
      { continuation := p.continuation.advance turn.later (t.cursorFrom n turn.later)
        served := p.served ++ [(turn.now, n)]
        answers := p.answers ++ [.ok (.found (t.header turn.now) p.continuation.query.origin
          p.continuation.query.via p.continuation.query.destination none
          (t.tripsOfPage turn.now p.continuation.query p.continuation.options n))] } := by
  have inside : n < t.pages.length := (List.getElem?_eq_some_iff.1 hpage).1
  have named : next? t p.continuation turn.later = some n := by
    rw [next?, h, Option.bind_some, Cursor.page?_ofPage fits]
    exact Option.filter_eq_some_iff.2 ⟨rfl, decide_eq_true inside⟩
  rw [step, t.more_of_pageAt h (t.pageAt_ofPage fits hpage), named, Timetable.tripsOfPage, hpage]
  rfl

/-! ## The invariant -/

/-- What holds from turn to turn, for the continuation of the first answer: the pages from `low` to
`high` were served, each once; every question had an answer, and the trips of the answers are those
of these pages; and the continuation is the first one with the cursors of the pages around. -/
structure Window (t : Timetable) (c : Continuation) (p : Paging) (low high : Nat) : Prop where
  low_le_high : low ≤ high
  high_lt : high < t.pages.length
  served : (p.served.map Prod.snd).Perm (List.range' low (high + 1 - low))
  answered : ∀ answer ∈ p.answers, ∃ a, answer = .ok a
  trips : p.trips = p.served.flatMap fun s => t.tripsOfPage s.1 c.query c.options s.2
  continuation : p.continuation =
    { c with
      earlierCursor := t.cursorFrom low false
      laterCursor := t.cursorFrom high true }

/-- A window with the page behind it. -/
theorem perm_range'_later {served : List Nat} (h : low ≤ high)
    (perm : served.Perm (List.range' low (high + 1 - low))) :
    (served ++ [high + 1]).Perm (List.range' low (high + 1 + 1 - low)) := by
  have more : high + 1 + 1 - low = (high + 1 - low) + 1 := by omega
  have last : low + (high + 1 - low) = high + 1 := by omega
  rw [more, List.range'_1_concat, last]
  exact perm.append_right _

/-- A window with the page before it. -/
theorem perm_range'_earlier {served : List Nat} (h : low + 1 ≤ high)
    (perm : served.Perm (List.range' (low + 1) (high + 1 - (low + 1)))) :
    (served ++ [low]).Perm (List.range' low (high + 1 - low)) := by
  have more : high + 1 - low = (high + 1 - (low + 1)) + 1 := by omega
  rw [more, List.range'_succ]
  exact (List.perm_append_singleton _ _).trans (perm.cons _)

namespace Window

/-- After the first answer, the window is the first page. -/
theorem start {now : Stamp} {answer : TripsAnswer} (first : t.pages[t.firstPage]? = some page)
    (trips : answer.trips = t.tripsOfPage now c.query c.options t.firstPage)
    (earlier : c.earlierCursor = t.cursorFrom t.firstPage false)
    (later : c.laterCursor = t.cursorFrom t.firstPage true) :
    Window t c (Paging.start t now answer c) t.firstPage t.firstPage where
  low_le_high := Nat.le_refl _
  high_lt := (List.getElem?_eq_some_iff.1 first).1
  served := by
    rw [Nat.add_sub_cancel_left]
    exact List.Perm.refl _
  answered := by
    intro a mem
    exact ⟨answer, List.mem_singleton.1 mem⟩
  trips := by
    show answer.trips ++ [] = _ ++ []
    rw [trips]
  continuation := by
    rw [← earlier, ← later]
    rfl

/-- One more answer that is no failure. -/
theorem answered_concat (w : Window t c p low high) (a : TripsAnswer) :
    ∀ answer ∈ p.answers ++ [.ok a], ∃ b, answer = .ok b := by
  intro answer mem
  rcases List.mem_append.1 mem with before | now
  · exact w.answered answer before
  · exact ⟨a, List.mem_singleton.1 now⟩

/-- A turn in an exhausted direction changes nothing about the window. -/
theorem ranOut (w : Window t c p low high) (h : p.continuation.cursor turn.later = none) :
    Window t c (p.step t turn) low high := by
  rw [step_of_cursor_none h]
  refine { w with answered := w.answered_concat _, trips := ?_ }
  rw [trips_answered, ← w.trips]
  exact List.append_nil _

/-- A turn that serves a page next to the window makes it part of the window. -/
theorem serve (w : Window t c p low high) {low' high' : Nat} (fits : n < UInt64.size)
    (h : p.continuation.cursor turn.later = some (Cursor.ofPage n))
    (hpage : t.pages[n]? = some page) (bounds : low' ≤ high') (inside : high' < t.pages.length)
    (served : (p.served.map Prod.snd ++ [n]).Perm (List.range' low' (high' + 1 - low')))
    (continuation : p.continuation.advance turn.later (t.cursorFrom n turn.later) =
      { c with
        earlierCursor := t.cursorFrom low' false
        laterCursor := t.cursorFrom high' true }) :
    Window t c (p.step t turn) low' high' := by
  rw [step_of_ofPage fits h hpage]
  refine ⟨bounds, inside, ?_, w.answered_concat _, ?_, continuation⟩
  · rw [List.map_append]
    exact served
  · rw [trips_answered, List.flatMap_append, ← w.trips, w.continuation]
    show _ = _ ++ (_ ++ [])
    rw [List.append_nil]
    rfl

/-- Going on later leads to the page behind the window. -/
theorem cursor_later (w : Window t c p low high) :
    p.continuation.cursor true = t.cursorFrom high true := by
  rw [w.continuation]
  rfl

/-- Going on earlier leads to the page before the window. -/
theorem cursor_earlier (w : Window t c p low high) :
    p.continuation.cursor false = t.cursorFrom low false := by
  rw [w.continuation]
  rfl

/-- In each direction the continuation is exhausted or names a page of the timetable. -/
theorem cursor_cases (w : Window t c p low high) (later : Bool) :
    p.continuation.cursor later = none ∨
      ∃ n page, p.continuation.cursor later = some (Cursor.ofPage n) ∧
        t.pages[n]? = some page := by
  have bounds := w.low_le_high
  have inside := w.high_lt
  cases later with
  | true =>
    rw [w.cursor_later]
    by_cases more : high + 1 < t.pages.length
    · exact .inr ⟨high + 1, _, if_pos more, List.getElem?_eq_getElem more⟩
    · exact .inl (if_neg more)
  | false =>
    rw [w.cursor_earlier]
    cases low with
    | zero => exact .inl rfl
    | succ low =>
      have before : low < t.pages.length := by omega
      exact .inr ⟨low, _, rfl, List.getElem?_eq_getElem before⟩

/-- One turn keeps the window or moves one end of it by one page. -/
theorem step (w : Window t c p low high) (fits : t.pages.length ≤ UInt64.size) (turn : Turn) :
    ∃ low' high', Window t c (p.step t turn) low' high' := by
  have bounds := w.low_le_high
  have inside := w.high_lt
  obtain ⟨now, later⟩ := turn
  cases later with
  | true =>
    by_cases more : high + 1 < t.pages.length
    · have cursor := w.cursor_later.trans (if_pos more)
      refine ⟨low, high + 1, w.serve (by omega) cursor (List.getElem?_eq_getElem more) (by omega)
        more (perm_range'_later bounds w.served) ?_⟩
      rw [w.continuation]
      rfl
    · exact ⟨low, high, w.ranOut (w.cursor_later.trans (if_neg more))⟩
  | false =>
    cases low with
    | zero => exact ⟨0, high, w.ranOut w.cursor_earlier⟩
    | succ low =>
      have before : low < t.pages.length := by omega
      refine ⟨low, high, w.serve (by omega) w.cursor_earlier (List.getElem?_eq_getElem before)
        (by omega) inside (perm_range'_earlier bounds w.served) ?_⟩
      rw [w.continuation]
      rfl

/-- Every run keeps a window. -/
theorem run (w : Window t c p low high) (fits : t.pages.length ≤ UInt64.size)
    (turns : List Turn) : ∃ low' high', Window t c (p.run t turns) low' high' := by
  induction turns generalizing p low high with
  | nil => exact ⟨low, high, w⟩
  | cons turn turns ih =>
    obtain ⟨low', high', w'⟩ := w.step fits turn
    exact ih w'

/-- Under a cursor the page that it names is served. -/
theorem more_of_cursor (w : Window t c p low high) (fits : t.pages.length ≤ UInt64.size)
    {later : Bool} {cursor : String} (h : p.continuation.cursor later = some cursor)
    (now : Stamp) :
    ∃ n, cursor = Cursor.ofPage n ∧ (t.more now p.continuation later).1 =
      .ok (.found (t.header now) c.query.origin c.query.via c.query.destination none
        (t.tripsOfPage now c.query c.options n)) := by
  rcases w.cursor_cases later with exhausted | ⟨n, page, named, hpage⟩
  · rw [exhausted] at h
    contradiction
  · have inside := (List.getElem?_eq_some_iff.1 hpage).1
    refine ⟨n, Option.some.inj (h.symm.trans named), ?_⟩
    rw [t.more_of_pageAt named (t.pageAt_ofPage (by omega) hpage), Timetable.tripsOfPage, hpage,
      w.continuation]

/-- No turn fails, whichever direction it takes. -/
theorem exists_ok (w : Window t c p low high) (fits : t.pages.length ≤ UInt64.size)
    (now : Stamp) (later : Bool) : ∃ a, (t.more now p.continuation later).1 = .ok a := by
  cases h : p.continuation.cursor later with
  | none =>
    rw [t.more_of_cursor_none h]
    exact ⟨_, rfl⟩
  | some cursor =>
    obtain ⟨n, -, answer⟩ := w.more_of_cursor fits h now
    exact ⟨_, answer⟩

end Window

/-! ## Runs -/

/-- After a new query that was answered with trips there is a window of the first page. -/
theorem window_start {now : Stamp} {query : Query} {options : Options}
    (ok : (t.trips now query options).status = .ok) :
    ∃ c, (t.trips now query options).continuation = some c ∧ c.options = options ∧
      (t.trips now query options).origin = some c.query.origin ∧
      (t.trips now query options).via = c.query.via ∧
      (t.trips now query options).destination = some c.query.destination ∧
      Window t c (start t now (t.trips now query options) c) t.firstPage t.firstPage := by
  obtain ⟨origin, via, destination, page, -, first, found⟩ := t.trips_eq_found ok
  rw [found]
  refine ⟨_, rfl, rfl, rfl, rfl, rfl, Window.start first ?_ rfl rfl⟩
  rw [Timetable.tripsOfPage, first]
  rfl

/-- Going on with a query that was answered with trips, in any order of directions: no call fails;
the pages served so far are next to each other, each was served once, and the trips so far are
theirs; the cursors are those of the pages around them, as texts; query and options stay what they
are; an exhausted direction has no trips and changes nothing, and under a cursor the trips are those
of the page that it names. -/
theorem run_contiguous (t : Timetable) (now : Stamp) (query : Query) (options : Options)
    (fits : t.pages.length ≤ UInt64.size) (ok : (t.trips now query options).status = .ok) :
    ∃ c, (t.trips now query options).continuation = some c ∧
      ∀ turns, ∃ low high,
        let p := (start t now (t.trips now query options) c).run t turns
        (∀ answer ∈ p.answers, ∃ a, answer = .ok a) ∧
        low ≤ high ∧ high < t.pages.length ∧
        (p.served.map Prod.snd).Perm (List.range' low (high + 1 - low)) ∧
        p.trips = p.served.flatMap (fun s => t.tripsOfPage s.1 c.query c.options s.2) ∧
        p.continuation.earlierCursor =
          (if 0 < low then some ("page:" ++ toString (low - 1)) else none) ∧
        p.continuation.laterCursor =
          (if high + 1 < t.pages.length then some ("page:" ++ toString (high + 1)) else none) ∧
        p.continuation.query = c.query ∧ p.continuation.options = c.options ∧
        (∀ time later, p.continuation.cursor later = none →
          ∃ a, t.more time p.continuation later = (.ok a, p.continuation) ∧
            a.status = .noTrips ∧ a.trips = []) ∧
        ∀ time later cursor, p.continuation.cursor later = some cursor →
          ∃ n a, cursor = "page:" ++ toString n ∧
            (t.more time p.continuation later).1 = .ok a ∧ a.status = .ok ∧
            a.trips = t.tripsOfPage time c.query c.options n := by
  obtain ⟨c, given, -, -, -, -, first⟩ := window_start ok
  refine ⟨c, given, fun turns => ?_⟩
  -- Everything is read off the window after the last turn.
  obtain ⟨low, high, w⟩ := first.run fits turns
  refine ⟨low, high, w.answered, w.low_le_high, w.high_lt, w.served, w.trips, ?_, ?_, ?_, ?_, ?_,
    ?_⟩
  · rw [w.continuation]
    cases low with
    | zero => rfl
    | succ low =>
      rw [if_pos (Nat.succ_pos low), Nat.add_sub_cancel, ← Cursor.ofPage_eq]
      rfl
  · rw [w.continuation, ← Cursor.ofPage_eq]
    rfl
  · rw [w.continuation]
  · rw [w.continuation]
  · intro time later exhausted
    exact ⟨_, t.more_of_cursor_none exhausted time, rfl, rfl⟩
  · intro time later cursor h
    obtain ⟨n, rfl, answer⟩ := w.more_of_cursor fits h time
    exact ⟨n, _, Cursor.ofPage_eq n, answer, rfl, rfl⟩

/-! ## A shuttle

Between two stops, one page for each of three hours, of which the middle one comes first. -/

def shuttleStart : Location := .stationOf "a" "Airport"

def shuttleEnd : Location := .stationOf "b" "Border"

/-- The shuttle of an hour, which takes five minutes. -/
def shuttleTrip (hour : Int64) : StoredTrip where
  id := none
  legs := [.own ⟨.car, shuttleStart, ⟨hour * 3600000, .network⟩, shuttleEnd,
    ⟨hour * 3600000 + 300000, .network⟩, 4000, none⟩]
  changes := none
  fares := []
  capacity := none

def shuttle : Timetable where
  network := ⟨"SHUTTLE", by decide⟩
  locations := [shuttleStart, shuttleEnd]
  departures := []
  pages := [⟨[shuttleTrip 6]⟩, ⟨[shuttleTrip 7, shuttleTrip 7]⟩, ⟨[shuttleTrip 8]⟩]
  initialPage := 1
  details := []

/-- From the airport by its name in small letters to the other end by its id. -/
def shuttleQuery : Query where
  origin := .ofName .any "airport"
  via := none
  destination := .ofId .any "b"
  time := ⟨0, .system⟩
  bound := .departAfter

/-- Two turns to later pages and two to earlier ones, of a shuttle that runs on three pages. -/
theorem run_contiguous_shuttle :
    shuttle.pages.length ≤ UInt64.size ∧
      (shuttle.trips ⟨0, 0⟩ shuttleQuery .default).status = .ok ∧
      ∃ c, (shuttle.trips ⟨0, 0⟩ shuttleQuery .default).continuation = some c ∧
        ∃ low high,
          (((start shuttle ⟨0, 0⟩ (shuttle.trips ⟨0, 0⟩ shuttleQuery .default) c).run shuttle
            [⟨⟨1, 0⟩, true⟩, ⟨⟨2, 0⟩, true⟩, ⟨⟨3, 0⟩, false⟩, ⟨⟨4, 0⟩, false⟩]).served.map
              Prod.snd).Perm (List.range' low (high + 1 - low)) := by
  have fits : shuttle.pages.length ≤ UInt64.size := by decide
  have ok : (shuttle.trips ⟨0, 0⟩ shuttleQuery .default).status = .ok := by rfl
  obtain ⟨c, given, runs⟩ := run_contiguous shuttle ⟨0, 0⟩ shuttleQuery .default fits ok
  obtain ⟨low, high, -, -, -, served, -⟩ := runs
    [⟨⟨1, 0⟩, true⟩, ⟨⟨2, 0⟩, true⟩, ⟨⟨3, 0⟩, false⟩, ⟨⟨4, 0⟩, false⟩]
  exact ⟨fits, ok, c, given, low, high, served⟩

end Paging

end Itinerary
