import Itinerary.Time.Calendar
import Itinerary.Time.Duration
import Itinerary.Time.Stamp
import Itinerary.Time.Zone

/-!
# Instants with an offset

A `Moment` is an instant, in milliseconds since the epoch, together with the offset from UTC under
which it was reported. The offset is for showing only: order and sameness of moments look at the
instant (`compare`, `sameInstant`), while Lean's equality sees both. Three offsets are not known in
minutes: that of the place, that of the device and that of the network. On the wire an offset is a
32-bit word, and the three lowest words stand for those three.

Sums clamp at the ends of the 64-bit range, and differences at the ends of `Duration`.
-/

namespace Itinerary.Time

/-- The offset under which an instant was reported. -/
inductive Offset where
  /-- Minutes east of UTC at that instant. -/
  | minutes (m : Int32)
  /-- The offset of the place. -/
  | location
  /-- The offset of the device. -/
  | system
  /-- The offset of the network. -/
  | network
  deriving DecidableEq

namespace Offset

def locationWord : Int32 := -2147483648

def systemWord : Int32 := -2147483647

def networkWord : Int32 := -2147483646

/-- The word of an offset. -/
def toWord : Offset → Int32
  | .minutes m => m
  | .location => locationWord
  | .system => systemWord
  | .network => networkWord

/-- The offset of a word. -/
def ofWord (w : Int32) : Offset :=
  if w = locationWord then .location
  else if w = systemWord then .system
  else if w = networkWord then .network
  else .minutes w

/-- The minutes of an offset that is known. -/
def minutes? : Offset → Option Int32
  | .minutes m => some m
  | _ => none

/-- Every word is the word of the offset that it stands for. -/
theorem toWord_ofWord (w : Int32) : (ofWord w).toWord = w := by
  unfold ofWord
  repeat' split
  all_goals simp_all [toWord]

def toJson (o : Offset) : Json := .int o.toWord.toInt

def reader : Json.Reader Offset := Json.Reader.int32.map ofWord

end Offset

/-- An instant and the offset under which it was reported. -/
structure Moment where
  instant : Int64
  offset : Offset
  deriving DecidableEq

namespace Moment

/-- The moment with an offset given as a word. -/
def ofWord (instant : Int64) (word : Int32) : Moment := ⟨instant, .ofWord word⟩

/-- The instant as a number. -/
def ms (m : Moment) : Int := m.instant.toInt

/-- Whether two moments are the same instant. -/
def sameInstant (a b : Moment) : Bool := a.instant = b.instant

/-- The order of instants. -/
def compare (a b : Moment) : Ordering := Ord.compare a.ms b.ms

/-- Whether the first instant lies before the second. -/
def before (a b : Moment) : Bool := a.ms < b.ms

/-- The earlier of two moments, the first one on a tie. -/
def earlier (a b : Moment) : Moment := if b.before a then b else a

/-- The later of two moments, the second one on a tie. -/
def later (a b : Moment) : Moment := if b.before a then a else b

/-- Whole minutes since the epoch; the minute that an instant lies in. -/
def minute (m : Moment) : Int := m.ms / 60000

/-- The moment a duration later, unless it falls outside the 64-bit range. -/
def add? (m : Moment) (d : Duration) : Option Moment :=
  let sum := m.ms + d.ms
  if Int64.minValue.toInt ≤ sum ∧ sum ≤ Int64.maxValue.toInt then
    some { m with instant := Int64.ofInt sum }
  else none

/-- The moment a duration earlier, unless it falls outside the 64-bit range. -/
def sub? (m : Moment) (d : Duration) : Option Moment :=
  let difference := m.ms - d.ms
  if Int64.minValue.toInt ≤ difference ∧ difference ≤ Int64.maxValue.toInt then
    some { m with instant := Int64.ofInt difference }
  else none

/-- The moment a duration later, or the end of the 64-bit range on that side. -/
def shift (m : Moment) (d : Duration) : Moment :=
  { m with instant := Int64.ofIntClamp (m.ms + d.ms) }

/-- How long after the second moment the first one is. -/
def since (a b : Moment) : Duration := .clamp (a.ms - b.ms)

/-- The moment of a stamp that was given with an offset in seconds: fractions of a millisecond are
cut toward the past, seconds of the offset toward zero. -/
def ofStamp (s : Stamp) (offset : Int) : Moment :=
  ⟨Int64.ofInt s.ms, .minutes (Int32.ofInt (Int.tdiv offset 60))⟩

/-- The moment that a date-time by RFC 3339 names. -/
def ofText? (text : String) : Option Moment :=
  (Stamp.strict? text).map fun (stamp, offset) => ofStamp stamp offset

/-- Whether the calendar covers the instant. -/
def onCalendar (m : Moment) : Bool := calendarStart ≤ m.ms ∧ m.ms ≤ calendarEnd

/-- The offset that the clocks of a zone show at the instant, seconds being cut toward zero. An
instant outside the calendar has the offset of its place. -/
def inZone (instant : Int64) (zone : Zone) : Moment :=
  let second := instant.toInt / 1000
  if calendarStart ≤ instant.toInt ∧ instant.toInt ≤ calendarEnd then
    ⟨instant, .minutes (Int32.ofInt (Int.tdiv (zone.offsetAt second) 60))⟩
  else ⟨instant, .location⟩

/-- The minutes of an offset that clocks can show: less than a day, on an instant of the calendar.
-/
def clockOffset? (m : Moment) : Option Int :=
  match m.offset.minutes? with
  | some w => if -1440 < w.toInt ∧ w.toInt < 1440 ∧ m.onCalendar then some w.toInt else none
  | none => none

/-- Date, hour and minute of a count of minutes since the epoch. -/
def minuteChars (minute : Int) : List Char :=
  let ofDay := (minute % 1440).toNat
  (Date.ofDay (minute / 1440)).chars ++ ' ' :: Decimal.padded 2 (ofDay / 60) ++
    ':' :: Decimal.padded 2 (ofDay % 60)

/-- An offset in hours and minutes with its sign. -/
def offsetChars (minutes : Int) : List Char :=
  (if minutes < 0 then '-' else '+') :: Decimal.padded 2 (minutes.natAbs / 60) ++
    ':' :: Decimal.padded 2 (minutes.natAbs % 60)

/-- What stands in the place of an offset that clocks cannot show. -/
def offsetName : Offset → String
  | .location => "location"
  | .system => "system"
  | .network => "network"
  | .minutes _ => "invalid offset"

/-- The moment as riders see it: local date and time with the offset where the offset can be shown,
else date and time in UTC with a word for the offset, else the bare instant. -/
def text (m : Moment) : String :=
  match m.clockOffset? with
  | some offset => String.ofList (minuteChars (m.minute + offset) ++ offsetChars offset)
  | none =>
    if m.onCalendar then
      String.ofList (minuteChars m.minute) ++ " UTC (" ++ offsetName m.offset ++ ")"
    else "@" ++ String.ofList (Decimal.signed m.ms) ++ "ms"

/-- The moment as it is shown to developers, with the instant beside it. -/
def inspect (m : Moment) : String :=
  "TemporalValue(" ++ m.text ++ " [" ++ String.ofList (Decimal.signed m.ms) ++ "])"

def toJson (m : Moment) : Json :=
  .obj [("instant", .int m.ms), ("offset", m.offset.toJson)]

def fields : Json.Fields Moment :=
  Moment.mk <$> .required "instant" .int64 <*> .required "offset" Offset.reader

def reader : Json.Reader Moment := .record fields

end Moment

end Itinerary.Time
