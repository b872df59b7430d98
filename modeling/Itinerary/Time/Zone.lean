import Itinerary.Time.Calendar
import Itinerary.Time.ZoneTable

/-!
# Time zones

A zone knows the offset of its clocks at every instant: local mean time at first, then what the
latest change of its table set, and from some year on two changes a year by a rule that names a
Sunday. The rules run to the end of 2099; what the last change of that year set holds ever after.
-/

namespace Itinerary.Time

/-- A yearly change of the clocks: at `second` after the start (in UTC) of a Sunday of a month, the
offset becomes `offset` seconds. The Sunday is the first on or after the day `earliest`. -/
structure YearlyChange where
  month : Nat
  earliest : Nat
  second : Int
  offset : Int

/-- A time zone. -/
structure Zone where
  name : String
  /-- Local mean time in seconds east of UTC. -/
  mean : Int
  /-- The changes of its table; see `ZoneTable`. -/
  table : List (Nat × Nat)
  /-- The first year of the yearly rule, and the rule. -/
  ruleFrom : Int
  rule : List YearlyChange

namespace Zone

/-- The last year of the yearly rules. -/
def lastRuleYear : Int := 2099

/-- The first Sunday on or after a day. Day 3 was a Sunday. -/
def sundayFrom (day : Int) : Int := day + (3 - day) % 7

/-- When a yearly change happens in a year, with the offset from then on. -/
def changeIn (year : Int) (c : YearlyChange) : Int × Int :=
  (sundayFrom (Date.toDay ⟨year, c.month, c.earliest⟩) * 86400 + c.second, c.offset)

/-- The changes by rule in the year of an instant and in the year before it. -/
def ruleChanges (z : Zone) (second : Int) : List (Int × Int) :=
  let year := min lastRuleYear (Date.ofDay (second / 86400)).year
  [year - 1, year].flatMap fun y => if z.ruleFrom ≤ y then z.rule.map (changeIn y) else []

/-- The offset that the latest of ascending changes set, or `start` before the first. -/
def latest (start second : Int) (changes : List (Int × Int)) : Int :=
  changes.foldl (fun offset (at_, next) => if at_ ≤ second then next else offset) start

/-- The offset in seconds east of UTC at a second since the epoch. -/
def offsetAt (z : Zone) (second : Int) : Int :=
  latest (latest z.mean second (ZoneTable.changes z.table)) second (z.ruleChanges second)

/-- The zones that are known, by name. -/
def all : List Zone := [
  ⟨"Europe/Berlin", 3208, ZoneTable.berlin, 1996, [⟨3, 25, 3600, 7200⟩, ⟨10, 25, 3600, 3600⟩]⟩,
  ⟨"America/New_York", -17762, ZoneTable.newYork, 2007,
    [⟨3, 8, 25200, -14400⟩, ⟨11, 1, 21600, -18000⟩]⟩,
  ⟨"America/St_Johns", -12652, ZoneTable.stJohns, 2012,
    [⟨3, 8, 19800, -9000⟩, ⟨11, 1, 16200, -12600⟩]⟩,
  ⟨"Asia/Kathmandu", 20476, ZoneTable.kathmandu, 0, []⟩,
  ⟨"Asia/Kolkata", 21208, ZoneTable.kolkata, 0, []⟩,
  ⟨"Australia/Lord_Howe", 38180, ZoneTable.lordHowe, 2008,
    [⟨4, 1, -32400, 37800⟩, ⟨10, 1, -30600, 39600⟩]⟩,
  ⟨"Pacific/Kiritimati", -37760, ZoneTable.kiritimati, 0, []⟩,
  ⟨"UTC", 0, [], 0, []⟩]

/-- The zone with a name; upper and lower case count. -/
def named? (name : String) : Option Zone := all.find? (·.name = name)

end Zone

end Itinerary.Time
