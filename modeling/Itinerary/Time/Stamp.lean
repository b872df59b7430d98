import Itinerary.Text.Blank
import Itinerary.Time.Calendar
import Itinerary.Json.Reader

/-!
# Date-times in UTC

A `Stamp` says when something was recorded: a second in UTC and the nanoseconds in it. A leap second
is the second before it with a second more of nanoseconds. A stamp is written by RFC 3339 with as
few fraction digits as say it exactly, in groups of three, and a `Z`.

There are two ways of reading. The strict one takes what RFC 3339 allows. The lenient one, which
stored documents use, also takes blanks around the parts, one-digit parts, signed years and a name
for UTC.
-/

namespace Itinerary.Time

/-- A second since the epoch in UTC and the nanoseconds in it; a leap second has more than a second
of them. -/
structure Stamp where
  second : Int
  nano : Nat
  deriving DecidableEq

namespace Stamp

/-- The fraction of a second, point included: nothing, or three, six or nine digits. -/
def fractionChars (nano : Nat) : List Char :=
  if nano = 0 then []
  else if nano % 1000000 = 0 then '.' :: Decimal.padded 3 (nano / 1000000)
  else if nano % 1000 = 0 then '.' :: Decimal.padded 6 (nano / 1000)
  else '.' :: Decimal.padded 9 nano

/-- The stamp by RFC 3339. -/
def text (s : Stamp) : String :=
  let ofDay := (s.second % 86400).toNat
  String.ofList <|
    (Date.ofDay (s.second / 86400)).chars ++ 'T' :: Decimal.padded 2 (ofDay / 3600) ++
      ':' :: Decimal.padded 2 (ofDay / 60 % 60) ++
      ':' :: Decimal.padded 2 (ofDay % 60 + s.nano / 1000000000) ++
      fractionChars (s.nano % 1000000000) ++ ['Z']

/-- Whole milliseconds since the epoch, at or before the stamp. -/
def ms (s : Stamp) : Int := s.second * 1000 + s.nano / 1000000

/-- Date and time of day as they are read, before it is known whether there is such a time. -/
structure Parts where
  year : Int
  month : Nat
  day : Nat
  hour : Nat
  minute : Nat
  second : Nat
  nano : Nat
  /-- Seconds east of UTC. -/
  offset : Int

/-- The first and the last year of the calendar. -/
def firstYear : Int := -262143
def lastYear : Int := 262142

/-- The stamp that the parts name, with their offset; the sixtieth second is a leap second. -/
def Parts.stamp? (p : Parts) : Option Stamp :=
  if firstYear ≤ p.year ∧ p.year ≤ lastYear ∧ 1 ≤ p.month ∧ p.month ≤ 12 ∧ 1 ≤ p.day
      ∧ p.day ≤ Date.daysIn p.year p.month ∧ p.hour ≤ 23 ∧ p.minute ≤ 59 ∧ p.second ≤ 60
      ∧ -86400 < p.offset ∧ p.offset < 86400 then
    let leap := p.second = 60
    let local_ := Date.toDay ⟨p.year, p.month, p.day⟩ * 86400 + p.hour * 3600 + p.minute * 60
      + (if leap then 59 else p.second)
    let second := local_ - p.offset
    let year := (Date.ofDay (second / 86400)).year
    if firstYear ≤ year ∧ year ≤ lastYear then
      some ⟨second, (if leap then 1000000000 else 0) + p.nano⟩
    else none
  else none

/-- A decimal digit. -/
def digit? (c : Char) : Option Nat := if c.isDigit then some (c.toNat - 48) else none

/-- Reads at least `low` and at most `high` digits. -/
def number? (low high : Nat) (cs : List Char) : Option (Nat × List Char) :=
  let ds := (cs.take high).takeWhile Char.isDigit
  if ds.length < low then none
  else some (ds.foldl (fun n d => n * 10 + (d.toNat - 48)) 0, cs.drop ds.length)

/-- Reads a certain character. -/
def char? (c : Char) : List Char → Option (List Char)
  | d :: rest => if d = c then some rest else none
  | [] => none

/-- Reads the fraction of a second if there is a point: nine digits count, more are passed over. -/
def fraction? : List Char → Option (Nat × List Char)
  | '.' :: rest => do
    let (n, after) ← number? 1 9 rest
    let used := rest.length - after.length
    pure (n * Decimal.tenTo (9 - used), after.dropWhile Char.isDigit)
  | cs => some (0, cs)

/-- Reads an offset, `between` saying what may stand between hours and minutes. -/
def offset? (between : List Char → Option (List Char)) :
    List Char → Option (Int × List Char)
  | [] => none
  | c :: rest =>
    if c = 'Z' ∨ c = 'z' then some (0, rest)
    else if c = '+' ∨ c = '-' ∨ c = '\u2212' then do
      let (hours, rest) ← match rest with
        | a :: b :: more => do pure ((← digit? a) * 10 + (← digit? b), more)
        | _ => none
      let rest ← between rest
      let (minutes, rest) ← match rest with
        | a :: b :: more => do pure ((← digit? a) * 10 + (← digit? b), more)
        | _ => none
      if minutes < 60 then
        let seconds : Int := hours * 3600 + minutes * 60
        some (if c = '+' then seconds else -seconds, rest)
      else none
    else none

/-- What may stand between date and time of day. -/
def separator? : List Char → Option (List Char)
  | c :: rest => if c = 'T' ∨ c = 't' ∨ c = ' ' then some rest else none
  | [] => none

/-- Reads a text by RFC 3339, with its offset in seconds. -/
def strict? (text : String) : Option (Stamp × Int) := do
  let (year, cs) ← number? 4 4 text.toList
  let (month, cs) ← number? 2 2 (← char? '-' cs)
  let (day, cs) ← number? 2 2 (← char? '-' cs)
  let (hour, cs) ← number? 2 2 (← separator? cs)
  let (minute, cs) ← number? 2 2 (← char? ':' cs)
  let (second, cs) ← number? 2 2 (← char? ':' cs)
  let (nano, cs) ← fraction? cs
  let (offset, cs) ← offset? (char? ':') cs
  if cs.isEmpty then
    let stamp ← Parts.stamp? ⟨year, month, day, hour, minute, second, nano, offset⟩
    pure (stamp, offset)
  else none

/-- Drops blanks in front. -/
def dropBlanks (cs : List Char) : List Char := cs.dropWhile Text.isBlank

/-- Reads a part of at most two digits, blanks in front of it. -/
def part? (cs : List Char) : Option (Nat × List Char) := number? 1 2 (dropBlanks cs)

/-- Reads a certain character with blanks in front of it. -/
def mark? (c : Char) (cs : List Char) : Option (List Char) := char? c (dropBlanks cs)

/-- Reads a year: up to four digits, or a sign and any number of them. -/
def year? (cs : List Char) : Option (Int × List Char) :=
  match dropBlanks cs with
  | '-' :: rest => (number? 1 rest.length rest).map fun (n, after) => (-(n : Int), after)
  | '+' :: rest => (number? 1 rest.length rest).map fun (n, after) => ((n : Int), after)
  | rest => (number? 1 4 rest).map fun (n, after) => ((n : Int), after)

/-- Reads the lenient form of an offset: the letters UTC in either case, or an offset whose hours
and minutes may be kept apart by colons and blanks or by nothing. -/
def zone? (cs : List Char) : Option (Int × List Char) :=
  if (cs.take 3).map Char.toUpper = ['U', 'T', 'C'] then some (0, cs.drop 3)
  else offset? (fun rest => some (rest.dropWhile fun c => c = ':' || Text.isBlank c)) cs

/-- Reads a text leniently. -/
def lenient? (text : String) : Option Stamp := do
  let (year, cs) ← year? text.toList
  let (month, cs) ← part? (← mark? '-' cs)
  let (day, cs) ← part? (← mark? '-' cs)
  let (hour, cs) ← part? (← separator? cs)
  let (minute, cs) ← part? (← mark? ':' cs)
  let (second, cs) ← part? (← mark? ':' cs)
  let (nano, cs) ← fraction? cs
  let (offset, cs) ← zone? (dropBlanks cs)
  if (dropBlanks cs).isEmpty then
    Parts.stamp? ⟨year, month, day, hour, minute, second, nano, offset⟩
  else none

def toJson (s : Stamp) : Json := .str s.text

def reader : Json.Reader Stamp := .narrow .text lenient?

end Stamp

end Itinerary.Time
