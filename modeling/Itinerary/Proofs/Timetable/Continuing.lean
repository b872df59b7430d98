import Itinerary.Proofs.Text.Numeral
import Itinerary.Proofs.Timetable.Serving

/-!
# Going on from any continuation

A continuation comes back from a client and may be anything: its cursors are texts that no page ever
gave out. Going on in a direction does one of three things, and which one is seen from the cursor of
that direction alone (`Timetable.more_atomic`). Under a cursor that does not name a page of the
timetable (`Cursor.Names`) it is refused; without a cursor it tells of no trips; and otherwise it
serves the page that the cursor names. In the first two cases the continuation is left as it was, and
in the third nothing of it changes but that cursor, which becomes the one of the next page in the
direction or is gone at the end (`Timetable.Serves`).
-/

namespace Itinerary

open Time (Stamp)

/-! ## Cursors -/

namespace Cursor

/-- A text that is a cursor for a page with a number: the word, a colon and a numeral. The number fits
a word of 64 bits. -/
def Names (cursor : String) (n : Nat) : Prop :=
  ∃ cs, cursor = "page:" ++ String.ofList cs ∧ Text.Numeral cs n ∧ n < UInt64.size

/-- A cursor is read as the number of a page just if it names that page. -/
theorem page?_eq_some_iff {cursor : String} {n : Nat} :
    page? cursor = some n ↔ Names cursor n := by
  have lead_eq (cs : List Char) : cursor = "page:" ++ String.ofList cs ↔
      cursor.toList = 'p' :: 'a' :: 'g' :: 'e' :: ':' :: cs := by
    rw [← String.toList_inj, String.toList_append]
    simp only [String.toList_ofList]
    rfl
  simp only [Names, lead_eq]
  unfold page?
  split
  · rename_i rest same
    rw [same]
    constructor
    · intro h
      obtain ⟨numeral, small⟩ := Text.unsigned?_eq_some_iff.1 h
      exact ⟨rest, rfl, numeral, small⟩
    · rintro ⟨cs, same, numeral, small⟩
      obtain rfl : rest = cs := by simpa using same
      exact Text.unsigned?_eq_some_iff.2 ⟨numeral, small⟩
  · rename_i other
    constructor
    · nofun
    · rintro ⟨cs, same, -⟩
      exact absurd same (other cs)

-- A plus sign and leading zeros are let through, a minus sign is not.
example : page? "page:+007" = some 7 ∧ page? "page:-0" = none := by decide

theorem ofPage_injective {m n : Nat} (same : ofPage m = ofPage n) : m = n := by
  rw [ofPage, ofPage, String.ofList_inj] at same
  exact Decimal.digits_injective (List.append_cancel_left same)

end Cursor

namespace Timetable

/-- The page next to another one in a direction, if there is one. -/
def neighbour? (t : Timetable) (n : Nat) (later : Bool) : Option Nat :=
  if later then if n + 1 < t.pages.length then some (n + 1) else none
  else if n = 0 then none else some (n - 1)

/-- The next cursor names the neighbour of a page, if the page has one in that direction. -/
theorem cursorFrom_eq (t : Timetable) (n : Nat) (later : Bool) :
    t.cursorFrom n later = (t.neighbour? n later).map fun k => "page:" ++ toString k := by
  unfold cursorFrom neighbour?
  simp only [← Cursor.ofPage_eq]
  split
  · split <;> rfl
  · split <;> rfl

/-- Different pages have different neighbours, or one of them has none. -/
theorem cursorFrom_injective {t : Timetable} {m n : Nat} {later : Bool}
    (hm : m < t.pages.length) (hn : n < t.pages.length)
    (same : t.cursorFrom m later = t.cursorFrom n later) : m = n := by
  unfold cursorFrom at same
  -- Only the page at the end has no neighbour, and there is one page at each end.
  cases later with
  | true =>
    simp only [if_true] at same
    split at same
    · split at same
      · have := Cursor.ofPage_injective (Option.some.inj same)
        omega
      · contradiction
    · split at same
      · contradiction
      · omega
  | false =>
    simp only [Bool.false_eq_true, if_false] at same
    split at same
    · split at same
      · omega
      · contradiction
    · split at same
      · contradiction
      · have := Cursor.ofPage_injective (Option.some.inj same)
        omega

/-- A cursor that names no page of the timetable is refused. -/
theorem exists_pageAt_eq_error {t : Timetable} {cursor : String}
    (unnamed : ∀ n < t.pages.length, ¬ Cursor.Names cursor n) :
    ∃ message, t.pageAt cursor = .error (.invalidContext message) := by
  unfold pageAt
  split
  · exact ⟨_, rfl⟩
  · rename_i n named
    split
    · rename_i page here
      exact absurd (Cursor.page?_eq_some_iff.1 named)
        (unnamed n (List.getElem?_eq_some_iff.1 here).1)
    · exact ⟨_, rfl⟩

/-- When the cursor is refused, the continuation is left as it was. -/
theorem more_of_pageAt_error {t : Timetable} {c : Continuation} {later : Bool} {cursor : String}
    {failure : Failure} (h : c.cursor later = some cursor)
    (refused : t.pageAt cursor = .error failure) (now : Stamp) :
    t.more now c later = (.error failure, c) := by
  rw [more, h]
  simp only [refused]

/-! ## The three outcomes -/

/-- Going on is refused, and the continuation is left as it was. -/
def Refuses (t : Timetable) (now : Stamp) (c : Continuation) (later : Bool) : Prop :=
  ∃ message, t.more now c later = (.error (.invalidContext message), c)

/-- Going on tells of no trips, and the continuation is left as it was. -/
def RunsOut (t : Timetable) (now : Stamp) (c : Continuation) (later : Bool) : Prop :=
  ∃ answer, t.more now c later = (.ok answer, c) ∧ answer.status = .noTrips ∧ answer.trips = []

/-- Going on serves the page with a number: that page is there and its trips for the query are the
answer, and of the continuation nothing changes but the cursor of the direction, which is then that
of the neighbour of the page. -/
structure Serves (t : Timetable) (now : Stamp) (c : Continuation) (later : Bool) (n : Nat) :
    Prop where
  answer : ∃ page, t.pages[n]? = some page ∧
    (t.more now c later).1 =
      .ok (.found (t.header now) c.query.origin c.query.via c.query.destination none
        (serve now page c.query.origin c.query.via c.query.destination c.options))
  query : (t.more now c later).2.query = c.query
  options : (t.more now c later).2.options = c.options
  otherCursor : (t.more now c later).2.cursor (!later) = c.cursor (!later)
  cursor : (t.more now c later).2.cursor later =
    (t.neighbour? n later).map fun k => "page:" ++ toString k

variable {t : Timetable} {now : Stamp} {c : Continuation} {later : Bool} {cursor : String} {n : Nat}

theorem runsOut_of_cursor_none (h : c.cursor later = none) : t.RunsOut now c later :=
  ⟨_, t.more_of_cursor_none h now, rfl, rfl⟩

/-- A cursor that names none of the pages is refused. -/
theorem refuses_of_unnamed (h : c.cursor later = some cursor)
    (unnamed : ∀ n < t.pages.length, ¬ Cursor.Names cursor n) : t.Refuses now c later := by
  obtain ⟨message, refused⟩ := exists_pageAt_eq_error unnamed
  exact ⟨message, t.more_of_pageAt_error h refused now⟩

/-- A cursor that names a page brings that page. -/
theorem serves_of_names (h : c.cursor later = some cursor) (named : Cursor.Names cursor n)
    (inside : n < t.pages.length) : t.Serves now c later n := by
  have here := List.getElem?_eq_getElem inside
  have found := pageAt_of_page? (Cursor.page?_eq_some_iff.2 named) here
  have answer := t.more_of_pageAt h found now
  refine ⟨⟨_, here, by rw [answer]⟩, ?_, ?_, ?_, ?_⟩
  · rw [answer, c.query_advance]
  · rw [answer, c.options_advance]
  · rw [answer, c.cursor_advance_other]
  · rw [answer, c.cursor_advance, cursorFrom_eq]

/-- What the cursor of a direction may be, for a timetable. -/
theorem cursor_trichotomy (t : Timetable) (c : Continuation) (later : Bool) :
    c.cursor later = none ∨
      (∃ cursor, c.cursor later = some cursor ∧ ∀ n < t.pages.length, ¬ Cursor.Names cursor n) ∨
      ∃ cursor n, c.cursor later = some cursor ∧ Cursor.Names cursor n ∧ n < t.pages.length := by
  cases h : c.cursor later with
  | none => exact .inl rfl
  | some cursor =>
    by_cases named : ∃ n, Cursor.Names cursor n ∧ n < t.pages.length
    · obtain ⟨n, named, inside⟩ := named
      exact .inr (.inr ⟨cursor, n, rfl, named, inside⟩)
    · exact .inr (.inl ⟨cursor, rfl, fun n inside names => named ⟨n, names, inside⟩⟩)

theorem not_refuses_of_runsOut (ran : t.RunsOut now c later) : ¬ t.Refuses now c later := by
  rintro ⟨message, refused⟩
  obtain ⟨answer, ok, -, -⟩ := ran
  rw [refused] at ok
  exact nomatch (Prod.mk.inj ok).1

theorem not_refuses_of_serves (served : t.Serves now c later n) : ¬ t.Refuses now c later := by
  rintro ⟨message, refused⟩
  obtain ⟨page, -, ok⟩ := served.answer
  rw [refused] at ok
  exact nomatch ok

/-- Whoever is served a page has not run out: a page is a page even if no trip on it matches. -/
theorem not_runsOut_of_serves (served : t.Serves now c later n) : ¬ t.RunsOut now c later := by
  rintro ⟨answer, ran, status, -⟩
  obtain ⟨page, -, ok⟩ := served.answer
  rw [ran] at ok
  rw [Except.ok.inj ok] at status
  exact nomatch status

/-- Only one page can have been served. -/
theorem Serves.unique {m : Nat} (hm : t.Serves now c later m) (hn : t.Serves now c later n) :
    m = n := by
  obtain ⟨page, here, -⟩ := hm.answer
  obtain ⟨page', here', -⟩ := hn.answer
  have same : t.cursorFrom m later = t.cursorFrom n later := by
    rw [cursorFrom_eq, cursorFrom_eq, ← hm.cursor, hn.cursor]
  exact cursorFrom_injective (List.getElem?_eq_some_iff.1 here).1
    (List.getElem?_eq_some_iff.1 here').1 same

/-- Going on is refused just if there is a cursor that names no page. -/
theorem refuses_iff : t.Refuses now c later ↔
    ∃ cursor, c.cursor later = some cursor ∧ ∀ n < t.pages.length, ¬ Cursor.Names cursor n := by
  constructor
  · intro refused
    rcases cursor_trichotomy t c later with none | unnamed | ⟨cursor, n, given, named, inside⟩
    · exact absurd refused (not_refuses_of_runsOut (runsOut_of_cursor_none none))
    · exact unnamed
    · exact absurd refused (not_refuses_of_serves (serves_of_names given named inside))
  · rintro ⟨cursor, given, unnamed⟩
    exact refuses_of_unnamed given unnamed

theorem runsOut_iff : t.RunsOut now c later ↔ c.cursor later = none := by
  constructor
  · intro ran
    rcases cursor_trichotomy t c later with none | ⟨cursor, given, unnamed⟩ |
      ⟨cursor, n, given, named, inside⟩
    · exact none
    · exact absurd (refuses_of_unnamed given unnamed) (not_refuses_of_runsOut ran)
    · exact absurd ran (not_runsOut_of_serves (serves_of_names given named inside))
  · exact runsOut_of_cursor_none

/-- Going on serves a page just if the cursor names it. -/
theorem serves_iff : t.Serves now c later n ↔
    ∃ cursor, c.cursor later = some cursor ∧ Cursor.Names cursor n ∧ n < t.pages.length := by
  constructor
  · intro served
    rcases cursor_trichotomy t c later with none | ⟨cursor, given, unnamed⟩ |
      ⟨cursor, m, given, named, inside⟩
    · exact absurd (runsOut_of_cursor_none none) (not_runsOut_of_serves served)
    · exact absurd (refuses_of_unnamed given unnamed) (not_refuses_of_serves served)
    · obtain rfl := served.unique (serves_of_names given named inside)
      exact ⟨cursor, given, named, inside⟩
  · rintro ⟨cursor, given, named, inside⟩
    exact serves_of_names given named inside

/-- Going on from any continuation, in either direction, does just one of three things. It is refused
just under a cursor that names no page of the timetable; it runs out just where there is no cursor;
and it serves a page just if that is a page of the timetable and the cursor names it. -/
theorem more_atomic (t : Timetable) (now : Stamp) (c : Continuation) (later : Bool) :
    (t.Refuses now c later ∨ t.RunsOut now c later ∨ ∃ n, t.Serves now c later n) ∧
      (t.RunsOut now c later → ¬ t.Refuses now c later) ∧
      (∀ n, t.Serves now c later n → ¬ t.Refuses now c later ∧ ¬ t.RunsOut now c later) ∧
      (t.Refuses now c later ↔ ∃ cursor, c.cursor later = some cursor ∧
        ∀ n < t.pages.length, ¬ Cursor.Names cursor n) ∧
      (t.RunsOut now c later ↔ c.cursor later = none) ∧
      ∀ n, t.Serves now c later n ↔ ∃ cursor, c.cursor later = some cursor ∧
        Cursor.Names cursor n ∧ n < t.pages.length := by
  refine ⟨?_, not_refuses_of_runsOut,
    fun n served => ⟨not_refuses_of_serves served, not_runsOut_of_serves served⟩,
    refuses_iff, runsOut_iff, fun n => serves_iff⟩
  rcases cursor_trichotomy t c later with none | ⟨cursor, given, unnamed⟩ |
    ⟨cursor, n, given, named, inside⟩
  · exact .inr (.inl (runsOut_of_cursor_none none))
  · exact .inl (refuses_of_unnamed given unnamed)
  · exact .inr (.inr ⟨n, serves_of_names given named inside⟩)

end Timetable

end Itinerary
