import Itinerary.Query.Basic

/-!
# Continuing a query

A query that was answered can be continued in both directions of time. Its continuation holds the
query as the backend understood it and one cursor for each direction; a cursor is a backend's own
text. A direction without a cursor is exhausted. After a page has been fetched in one direction only
the cursor of that direction changes (`Continuation.cursor_advance`,
`Continuation.cursor_advance_other`).
-/

namespace Itinerary

open Time (Moment)

/-- A query and where to go on with it. -/
structure Continuation where
  query : Query
  options : Options
  earlierCursor : Option String
  laterCursor : Option String
  deriving DecidableEq

namespace Continuation

/-- The cursor of a direction. -/
def cursor (c : Continuation) (later : Bool) : Option String :=
  if later then c.laterCursor else c.earlierCursor

/-- The continuation with another cursor for the direction that was just fetched. -/
def advance (c : Continuation) (later : Bool) (next : Option String) : Continuation :=
  if later then { c with laterCursor := next } else { c with earlierCursor := next }

def canGoEarlier (c : Continuation) : Bool := c.earlierCursor.isSome

def canGoLater (c : Continuation) : Bool := c.laterCursor.isSome

/-- The cursor in the direction of a step is the one that the step brought. -/
@[simp] theorem cursor_advance (c : Continuation) (later : Bool) (next : Option String) :
    (c.advance later next).cursor later = next := by
  cases later <;> rfl

/-- A step does not touch the cursor in the other direction. -/
@[simp] theorem cursor_advance_other (c : Continuation) (later : Bool) (next : Option String) :
    (c.advance later next).cursor (!later) = c.cursor (!later) := by
  cases later <;> rfl

@[simp] theorem query_advance (c : Continuation) (later : Bool) (next : Option String) :
    (c.advance later next).query = c.query := by
  cases later <;> rfl

@[simp] theorem options_advance (c : Continuation) (later : Bool) (next : Option String) :
    (c.advance later next).options = c.options := by
  cases later <;> rfl

/-- Whether two continuations are of the same query and options, the instant of the time alone
counting, and go on at the same cursors. -/
def same (a b : Continuation) : Bool :=
  a.query.origin = b.query.origin && a.query.via = b.query.via
    && a.query.destination = b.query.destination && a.query.time.sameInstant b.query.time
    && a.query.bound = b.query.bound && a.options = b.options
    && a.earlierCursor = b.earlierCursor && a.laterCursor = b.laterCursor

def toJson (c : Continuation) : Json :=
  .obj [("query", c.query.toJson), ("options", c.options.toJson),
    ("earlier_cursor", .optStr c.earlierCursor), ("later_cursor", .optStr c.laterCursor)]

def fields : Json.Fields Continuation :=
  Continuation.mk <$> .required "query" Query.reader <*>
    .defaulted "options" Options.reader .default <*> .maybe "earlier_cursor" .text <*>
    .maybe "later_cursor" .text

def reader : Json.Reader Continuation := .record fields

end Continuation

end Itinerary
