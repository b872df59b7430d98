import Itinerary.Proofs.Decimal.Digits
import Itinerary.Time.Moment

/-!
# What the text of a moment tells

Riders see a moment in one of three shapes (`Face`): by the clocks of an offset, with a word in the
place of the offset, or as a bare number where there is no calendar. The shapes do not run into one
another, and within each of them the text says everything that is in it (`Face.chars_injective`):
what is written of a date and of a time of day has two digits in each place but the year, so it is
read from the end, and different days have different dates.

So the text of a moment tells the minute, and the offset where it is shown (`Moment.text_tells`). Of
the instant it tells no more than the minute, on the calendar, and of an offset that is not shown no
more than the word for it.
-/

namespace Itinerary.Time

open Decimal

/-! ## Dates -/

namespace Date

/-- Months and days have numbers of two digits. -/
theorem ofDay_bounds (n : Int) : (ofDay n).month ≤ 12 ∧ (ofDay n).day ≤ 31 := by
  have cycle := yearOfCycle_bounds (Int.emod_nonneg (n + 719468) (by decide))
    (Int.emod_lt_of_pos (n + 719468) (by decide))
  simp only [ofDay]
  generalize (n + 719468) % 146097 - yearStart _ = day at *
  constructor
  · split <;> omega
  · omega

end Date

/-- A sign that stands in front of the amount of a number. -/
def signOf (a : Int) : Char := if a < 0 then '-' else '+'

/-- The sign tells the negative numbers from the others. -/
theorem signOf_eq_iff {a b : Int} : signOf a = signOf b ↔ (a < 0 ↔ b < 0) := by
  unfold signOf
  by_cases ha : a < 0 <;> by_cases hb : b < 0 <;> simp [ha, hb]

/-- A number is known from its sign and its amount. -/
theorem eq_of_signOf {a b : Int} (sign : signOf a = signOf b) (amount : a.natAbs = b.natAbs) :
    a = b := by
  have := signOf_eq_iff.1 sign
  omega

theorem not_isDigit_signOf (a : Int) : (signOf a).isDigit = false := by
  unfold signOf
  split <;> rfl

namespace Date

/-- A year of four digits, or one with a sign. -/
theorem yearChars_cases (year : Int) :
    (0 ≤ year ∧ year ≤ 9999 ∧ yearChars year = padded 4 year.natAbs) ∨
      yearChars year = signOf year :: padded 4 year.natAbs := by
  unfold yearChars
  split
  next within => exact .inl ⟨within.1, within.2, rfl⟩
  next => exact .inr rfl

/-- Nothing that is padded with zeros begins with a sign. -/
theorem signOf_cons_ne_padded (a : Int) (cs : List Char) (width n : Nat) :
    signOf a :: cs ≠ padded width n := by
  intro same
  have mem : signOf a ∈ padded width n := by
    rw [← same]
    exact List.mem_cons_self
  have digit := isDigit_of_mem_padded mem
  rw [not_isDigit_signOf] at digit
  cases digit

/-- A year is known from its digits and its sign, of however many digits it is. -/
theorem yearChars_injective {x y : Int} (same : yearChars x = yearChars y) : x = y := by
  rcases yearChars_cases x with ⟨low, -, plain⟩ | signed
  · rcases yearChars_cases y with ⟨low', -, plain'⟩ | signed'
    · rw [plain, plain'] at same
      have amount := padded_injective same
      omega
    · rw [plain, signed'] at same
      exact absurd same.symm (signOf_cons_ne_padded y _ _ _)
  · rcases yearChars_cases y with ⟨-, -, plain'⟩ | signed'
    · rw [signed, plain'] at same
      exact absurd same (signOf_cons_ne_padded x _ _ _)
    · rw [signed, signed'] at same
      obtain ⟨sign, digits⟩ := List.cons.inj same
      exact eq_of_signOf sign (padded_injective digits)

/-- A date is known from its text, where months and days have two digits. -/
theorem chars_injective {d e : Date} (month : d.month ≤ 12 ∧ e.month ≤ 12)
    (day : d.day ≤ 31 ∧ e.day ≤ 31) (same : d.chars = e.chars) : d = e := by
  obtain ⟨front, -, days⟩ := append_padded_two_inj (by omega) (by omega) same
  obtain ⟨years, -, months⟩ := append_padded_two_inj (by omega) (by omega) front
  cases d
  cases e
  simp only [mk.injEq]
  exact ⟨yearChars_injective years, months, days⟩

end Date

/-! ## Minutes and offsets -/

namespace Moment

/-- A minute is known from its date and its time of day. -/
theorem minuteChars_injective {m n : Int} (same : minuteChars m = minuteChars n) : m = n := by
  have bounds := Date.ofDay_bounds (m / 1440)
  have bounds' := Date.ofDay_bounds (n / 1440)
  obtain ⟨front, -, minutes⟩ := append_padded_two_inj (by omega) (by omega) same
  obtain ⟨dates, -, hours⟩ := append_padded_two_inj (by omega) (by omega) front
  have days := Date.ofDay_injective
    (Date.chars_injective ⟨bounds.1, bounds'.1⟩ ⟨bounds.2, bounds'.2⟩ dates)
  omega

/-- A minute with an offset of less than a day behind it. -/
theorem minuteChars_append_inj {m n a b : Int} (within : a.natAbs < 1440)
    (within' : b.natAbs < 1440)
    (same : minuteChars m ++ offsetChars a = minuteChars n ++ offsetChars b) : m = n ∧ a = b := by
  rw [offsetChars, offsetChars, ← List.append_assoc, ← List.append_assoc] at same
  obtain ⟨front, -, minutes⟩ := append_padded_two_inj (by omega) (by omega) same
  obtain ⟨clock, sign, hours⟩ := append_padded_two_inj (by omega) (by omega) front
  exact ⟨minuteChars_injective clock, eq_of_signOf sign (by omega)⟩

/-- What dates, times of day and offsets are written with. -/
def IsClockChar (c : Char) : Prop := c.isDigit ∨ c ∈ ['-', '+', ' ', ':']

theorem isClockChar_padded {width n : Nat} {c : Char} (mem : c ∈ padded width n) : IsClockChar c :=
  .inl (isDigit_of_mem_padded mem)

theorem isClockChar_signOf (a : Int) : IsClockChar (signOf a) := by
  unfold signOf
  split <;> exact .inr (by simp)

theorem isClockChar_yearChars {year : Int} {c : Char} (mem : c ∈ Date.yearChars year) :
    IsClockChar c := by
  rcases Date.yearChars_cases year with ⟨-, -, plain⟩ | signed
  · rw [plain] at mem
    exact isClockChar_padded mem
  · rw [signed] at mem
    rcases List.mem_cons.1 mem with rfl | digit
    · exact isClockChar_signOf year
    · exact isClockChar_padded digit

/-- No minute is written with a letter or an `@`. -/
theorem isClockChar_minuteChars {minute : Int} {c : Char} (mem : c ∈ minuteChars minute) :
    IsClockChar c := by
  simp only [minuteChars, Date.chars, List.mem_append, List.mem_cons] at mem
  rcases mem with (((year | rfl | month) | rfl | day) | rfl | hour) | rfl | minute
  · exact isClockChar_yearChars year
  · exact .inr (by simp)
  · exact isClockChar_padded month
  · exact .inr (by simp)
  · exact isClockChar_padded day
  · exact .inr (by simp)
  · exact isClockChar_padded hour
  · exact .inr (by simp)
  · exact isClockChar_padded minute

theorem isClockChar_offsetChars {offset : Int} {c : Char} (mem : c ∈ offsetChars offset) :
    IsClockChar c := by
  simp only [offsetChars, List.mem_append, List.mem_cons] at mem
  rcases mem with (rfl | hours) | rfl | minutes
  · exact isClockChar_signOf offset
  · exact isClockChar_padded hours
  · exact .inr (by simp)
  · exact isClockChar_padded minutes

end Moment

/-- Only an offset in minutes has minutes. -/
theorem Offset.minutes?_eq_some_iff {o : Offset} {w : Int32} :
    o.minutes? = some w ↔ o = .minutes w := by
  cases o <;> simp [minutes?]

/-! ## The three shapes -/

/-- What riders see of a moment. -/
inductive Face where
  /-- The minute on the clocks of an offset, and the offset. -/
  | clocks (minute offset : Int)
  /-- The minute in UTC, and a word for the offset. -/
  | utc (minute : Int) (word : String)
  /-- The instant as a number. -/
  | bare (ms : Int)

namespace Face

/-- The face as it is written. -/
def chars : Face → List Char
  | clocks minute offset => Moment.minuteChars minute ++ Moment.offsetChars offset
  | utc minute word => Moment.minuteChars minute ++ " UTC (".toList ++ word.toList ++ [')']
  | bare ms => '@' :: signed ms ++ ['m', 's']

/-- Offsets that are shown are less than a day, and the words for the others hold no `@`. -/
def Plain : Face → Prop
  | clocks _ offset => offset.natAbs < 1440
  | utc _ word => '@' ∉ word.toList
  | bare _ => True

/-- The minute since the epoch. -/
def minute : Face → Int
  | clocks minute offset => minute - offset
  | utc minute _ => minute
  | bare ms => ms / 60000

/-- The offset, if it is shown. -/
def offset? : Face → Option Int
  | clocks _ offset => some offset
  | _ => none

theorem not_isClockChar_at : ¬ Moment.IsClockChar '@' := by
  unfold Moment.IsClockChar
  decide

theorem not_isClockChar_letter : ¬ Moment.IsClockChar 'U' := by
  unfold Moment.IsClockChar
  decide

/-- A time on the clocks is written without letters. -/
theorem isClockChar_of_mem_clocks {x a : Int} {c : Char} (mem : c ∈ (clocks x a).chars) :
    Moment.IsClockChar c := by
  rcases List.mem_append.1 mem with minute | offset
  · exact Moment.isClockChar_minuteChars minute
  · exact Moment.isClockChar_offsetChars offset

/-- Only a bare number has an `@`. -/
theorem at_mem_chars_iff {f : Face} (plain : f.Plain) : '@' ∈ f.chars ↔ ∃ ms, f = bare ms := by
  cases f with
  | clocks minute offset =>
    have absent : '@' ∉ (clocks minute offset).chars := fun mem =>
      not_isClockChar_at (isClockChar_of_mem_clocks mem)
    simp [absent]
  | utc minute word =>
    have absent : '@' ∉ Moment.minuteChars minute := fun mem =>
      not_isClockChar_at (Moment.isClockChar_minuteChars mem)
    have absent' : '@' ∉ word.toList := plain
    simp [chars, absent, absent']
  | bare ms => simp [chars]

/-- What is shown in UTC has letters in it, what is shown with an offset in minutes has none. -/
theorem clocks_ne_utc (x a y : Int) (word : String) :
    (clocks x a).chars ≠ (utc y word).chars := by
  intro same
  have letter : 'U' ∈ (clocks x a).chars := by
    rw [same]
    simp [chars]
  exact not_isClockChar_letter (isClockChar_of_mem_clocks letter)

/-- The minute and the word are known from what is shown in UTC: the first letter is where the word
is due. -/
theorem utc_inj {x y : Int} {v w : String} (same : (utc x v).chars = (utc y w).chars) :
    x = y ∧ v = w := by
  have absent (z : Int) : 'U' ∉ Moment.minuteChars z ++ [' '] := by
    have absent : 'U' ∉ Moment.minuteChars z := fun mem =>
      not_isClockChar_letter (Moment.isClockChar_minuteChars mem)
    simp [absent]
  have parts (z : Int) (word : String) : (utc z word).chars =
      (Moment.minuteChars z ++ [' ']) ++ 'U' :: (['T', 'C', ' ', '('] ++ (word.toList ++ [')'])) := by
    simp [chars]
  rw [parts, parts] at same
  obtain ⟨minutes, words⟩ := Text.append_cons_inj (absent x) (absent y) same
  refine ⟨Moment.minuteChars_injective (List.append_cancel_right minutes), ?_⟩
  exact String.toList_inj.1 (List.append_cancel_right (List.append_cancel_left words))

/-- The text of a face says all that is in it. -/
theorem chars_injective {f g : Face} (plain : f.Plain) (plain' : g.Plain)
    (same : f.chars = g.chars) : f = g := by
  have bares : (∃ ms, f = bare ms) ↔ ∃ ms, g = bare ms := by
    rw [← at_mem_chars_iff plain, ← at_mem_chars_iff plain', same]
  cases f with
  | clocks x a =>
    cases g with
    | clocks y b =>
      obtain ⟨rfl, rfl⟩ := Moment.minuteChars_append_inj plain plain' same
      rfl
    | utc y w => exact absurd same (clocks_ne_utc x a y w)
    | bare ms => simp at bares
  | utc x v =>
    cases g with
    | clocks y b => exact absurd same.symm (clocks_ne_utc y b x v)
    | utc y w =>
      obtain ⟨rfl, rfl⟩ := utc_inj same
      rfl
    | bare ms => simp at bares
  | bare ms =>
    obtain ⟨ms', rfl⟩ := bares.1 ⟨ms, rfl⟩
    have numbers := List.append_cancel_right (List.cons.inj same).2
    rw [signed_injective numbers]

end Face

namespace Moment

/-- What riders see of the moment. -/
def face (m : Moment) : Face :=
  match m.clockOffset? with
  | some offset => .clocks (m.minute + offset) offset
  | none => if m.onCalendar then .utc m.minute (offsetName m.offset) else .bare m.ms

theorem toList_text (m : Moment) : m.text.toList = m.face.chars := by
  unfold text face
  cases m.clockOffset? with
  | some offset => exact String.toList_ofList
  | none =>
    by_cases covered : m.onCalendar = true
    · simp [covered, Face.chars]
    · simp [covered, Face.chars]

example : text ⟨1710489600000, .minutes 60⟩ = "2024-03-15 09:00+01:00" := by cbv

/-- The moment has an offset in minutes that clocks can show. -/
structure ShowsOffset (m : Moment) (w : Int32) : Prop where
  offset : m.offset = .minutes w
  within : w.toInt.natAbs < 1440
  onCalendar : m.onCalendar = true

/-- Clocks show an offset in minutes of less than a day, for a moment on the calendar, and no other.
-/
theorem clockOffset?_eq_some_iff {m : Moment} {o : Int} :
    m.clockOffset? = some o ↔ ∃ w, m.ShowsOffset w ∧ w.toInt = o := by
  constructor
  · intro given
    unfold clockOffset? at given
    split at given
    next w known =>
      split at given
      next within =>
        have offset := Offset.minutes?_eq_some_iff.1 known
        exact ⟨w, ⟨offset, by omega, within.2.2⟩, Option.some.inj given⟩
      next => cases given
    next => cases given
  · rintro ⟨w, ⟨offset, within, covered⟩, rfl⟩
    have low : -1440 < w.toInt := by omega
    have high : w.toInt < 1440 := by omega
    simp [clockOffset?, offset, Offset.minutes?, low, high, covered]

theorem at_not_mem_offsetName (o : Offset) : '@' ∉ (offsetName o).toList := by
  cases o <;> simp [offsetName]

/-- What is shown of a moment is always plain: an offset that is shown is short, and no word has an
`@`. -/
theorem plain_face (m : Moment) : m.face.Plain := by
  unfold face
  split
  next offset known =>
    obtain ⟨w, shown, rfl⟩ := clockOffset?_eq_some_iff.1 known
    exact shown.within
  next =>
    split
    · exact at_not_mem_offsetName m.offset
    · trivial

theorem minute_face (m : Moment) : m.face.minute = m.minute := by
  unfold face
  split
  · exact Int.add_sub_cancel _ _
  · split <;> rfl

theorem offset?_face (m : Moment) : m.face.offset? = m.clockOffset? := by
  unfold face
  cases m.clockOffset? with
  | some offset => rfl
  | none =>
    dsimp only
    split <;> rfl

/-- Two moments have one text if riders see the same of them, and only then. -/
theorem text_eq_iff {a b : Moment} : a.text = b.text ↔ a.face = b.face := by
  rw [← String.toList_inj, toList_text, toList_text]
  exact ⟨Face.chars_injective a.plain_face b.plain_face, congrArg Face.chars⟩

/-- Of a moment on the calendar, the minute and the offset settle what riders see. -/
theorem face_congr {a b : Moment} (offset : a.offset = b.offset) (covered : a.onCalendar = true)
    (covered' : b.onCalendar = true) (minute : a.minute = b.minute) : a.face = b.face := by
  simp only [face, clockOffset?, offset, covered, covered', minute, if_true]

/-- Moments with one text lie in one minute, and if either of them has an offset that clocks can
show, both have that offset. The other way round, moments on the calendar with one offset have one
text if they lie in one minute. -/
theorem text_tells (a b : Moment) :
    (a.text = b.text → a.minute = b.minute ∧
      ∀ w, a.ShowsOffset w ∨ b.ShowsOffset w → a.offset = .minutes w ∧ b.offset = .minutes w) ∧
    (a.offset = b.offset → a.onCalendar = true → b.onCalendar = true → a.minute = b.minute →
      a.text = b.text) := by
  constructor
  · intro same
    have faces := text_eq_iff.1 same
    have offsets : a.clockOffset? = b.clockOffset? := by
      rw [← offset?_face, faces, offset?_face]
    refine ⟨by rw [← minute_face, faces, minute_face], ?_⟩
    rintro w (shown | shown)
    · have known := clockOffset?_eq_some_iff.2 ⟨w, shown, rfl⟩
      obtain ⟨v, shown', number⟩ := clockOffset?_eq_some_iff.1 (offsets.symm.trans known)
      exact ⟨shown.offset, Int32.toInt.inj number ▸ shown'.offset⟩
    · have known := clockOffset?_eq_some_iff.2 ⟨w, shown, rfl⟩
      obtain ⟨v, shown', number⟩ := clockOffset?_eq_some_iff.1 (offsets.trans known)
      exact ⟨Int32.toInt.inj number ▸ shown'.offset, shown.offset⟩
  · intro offset covered covered' minute
    exact text_eq_iff.2 (face_congr offset covered covered' minute)

/-! ## Half past a minute -/

def onTheMinute : Moment := ⟨1710489600000, .minutes 60⟩

def halfPast : Moment := ⟨1710489630000, .minutes 60⟩

/-- Half a minute apart, with one offset and within one minute, two moments have one text. -/
theorem text_tells_halfPast :
    (onTheMinute.offset = halfPast.offset ∧ onTheMinute.onCalendar = true ∧
      halfPast.onCalendar = true ∧ onTheMinute.minute = halfPast.minute) ∧
    onTheMinute.text = halfPast.text ∧ onTheMinute.ShowsOffset 60 ∧
    halfPast.offset = .minutes 60 := by
  have same := (text_tells onTheMinute halfPast).2 rfl rfl rfl rfl
  have shown : onTheMinute.ShowsOffset 60 := ⟨rfl, by decide, rfl⟩
  have told := ((text_tells onTheMinute halfPast).1 same).2 60 (.inl shown)
  exact ⟨⟨rfl, rfl, rfl, rfl⟩, same, shown, told.2⟩

end Moment

end Itinerary.Time
