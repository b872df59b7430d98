import Itinerary.Proofs.Time.Reach

/-!
# Sums and differences at the ends of the clock

The clock reaches one millisecond farther into the past than a duration does. So there are two
places where a sum or a difference may be cut, and they are not the same place: a sum is cut at the
ends of the clock (`Moment.sums`), a difference at the ends of the durations (`Moment.ms_since`).
Whether a difference is cut at the ends of the clock before that makes no odds
(`Moment.clamp_elapsed`).

Since the durations reach equally far in both directions, a difference can always be turned round
(`Moment.since_eq_neg_since`), and taking a duration away is adding it turned round
(`Moment.sub?_eq_add?_neg`). A difference that is cut still has its sign
(`Moment.compare_since_zero`), but it no longer leads from the one moment to the other
(`Moment.ms_shift_since_iff`).
-/

namespace Itinerary.Time

/-- A number of milliseconds since the epoch that the clock can show. -/
def OnClock (ms : Int) : Prop := Int64.minValue.toInt ≤ ms ∧ ms ≤ Int64.maxValue.toInt

theorem Duration.ms_neg (d : Duration) : (-d).ms = -d.ms := rfl

/-- The ends of the durations are each other's opposites. -/
theorem Duration.clamp_neg (ms : Int) : clamp (-ms) = -clamp ms := by
  have positive := durationMax_pos
  ext
  simp only [ms_neg, ms_clamp]
  omega

namespace Moment

variable {a b m : Moment} {d : Duration}

theorem onClock_ms (m : Moment) : OnClock m.ms := m.ms_bounds

/-! ## Differences -/

/-- How long after the second moment the first one is, as far as the clock can count it. -/
def elapsed (a b : Moment) : Int64 := Int64.ofIntClamp (a.ms - b.ms)

/-- A difference may be cut at the ends of the clock before it is at those of the durations. -/
theorem clamp_elapsed (a b : Moment) : .clamp (a.elapsed b).toInt = a.since b := by
  have positive := durationMax_pos
  ext
  rw [Duration.ms_clamp, elapsed, toInt_ofIntClamp, ms_since]
  omega

/-- A difference is the opposite of the difference the other way round. -/
theorem since_eq_neg_since (a b : Moment) : a.since b = -b.since a := by
  rw [since, since, ← Duration.clamp_neg, Int.neg_sub]

/-- A difference has the sign that the order of the two moments asks for. -/
theorem compare_since_zero (a b : Moment) : Ord.compare (a.since b).ms 0 = a.compare b := by
  have positive := durationMax_pos
  rw [ms_since, compare]
  rcases Int.lt_trichotomy a.ms b.ms with before | same | after
  · rw [Int.compare_eq_lt.2 before, Int.compare_eq_lt]
    omega
  · rw [Int.compare_eq_eq.2 same, Int.compare_eq_eq]
    omega
  · rw [Int.compare_eq_gt.2 after, Int.compare_eq_gt]
    omega

/-- A difference leads from the one moment to the other if it is not cut, and only then. -/
theorem ms_shift_since_iff :
    (b.shift (a.since b)).ms = a.ms ↔ -durationMax ≤ a.ms - b.ms ∧ a.ms - b.ms ≤ durationMax := by
  have positive := durationMax_pos
  have first := a.ms_bounds
  have second := b.ms_bounds
  rw [ms_shift, ms_since]
  omega

/-! ## Sums -/

/-- What comes of a moment and a duration, by a sum that may fail and by one that may be cut. Both
give the exact sum if the clock can show it. If it cannot, the one gives nothing and the other the
end of the clock on the side to which the duration leads. -/
inductive Sums (m : Moment) (d : Duration) : Option Moment → Moment → Prop
  | exact {sum : Moment} (instant : sum.ms = m.ms + d.ms) (offset : sum.offset = m.offset) :
    Sums m d (some sum) sum
  | late (forward : 0 < d.ms) (beyond : Int64.maxValue.toInt < m.ms + d.ms) :
    Sums m d none ⟨Int64.maxValue, m.offset⟩
  | early (backward : d.ms < 0) (beyond : m.ms + d.ms < Int64.minValue.toInt) :
    Sums m d none ⟨Int64.minValue, m.offset⟩

theorem offset_shift (m : Moment) (d : Duration) : (m.shift d).offset = m.offset := rfl

/-- A sum that the clock can show is exact, and the offset is kept. -/
theorem shift_of_onClock (fits : OnClock (m.ms + d.ms)) :
    m.shift d = { m with instant := Int64.ofInt (m.ms + d.ms) } := by
  rw [shift, Int64.ofIntClamp, dif_pos fits.1, dif_pos fits.2, Int64.ofIntLE_eq_ofInt]

/-- The two ways to add go together as `Sums` says, for all moments and all durations. -/
theorem sums (m : Moment) (d : Duration) : m.Sums d (m.add? d) (m.shift d) := by
  have bounds := m.onClock_ms
  by_cases fits : OnClock (m.ms + d.ms)
  · have checked : m.add? d = some (m.shift d) := by
      rw [shift_of_onClock fits]
      exact if_pos fits
    have exact : (m.shift d).ms = m.ms + d.ms := by
      rw [shift_of_onClock fits]
      exact Int64.toInt_ofInt_of_le fits.1 (Int.lt_of_le_sub_one fits.2)
    rw [checked]
    exact .exact exact rfl
  · have checked : m.add? d = none := if_neg fits
    rw [checked, shift, Int64.ofIntClamp]
    simp only [OnClock] at bounds fits
    split
    next above =>
      have beyond : Int64.maxValue.toInt < m.ms + d.ms := by omega
      rw [dif_neg (Int.not_le.2 beyond)]
      exact .late (by omega) beyond
    next below => exact .early (by omega) (Int.not_le.1 below)

/-- A sum that may fail is there if the clock can show it. -/
theorem isSome_add?_iff : (m.add? d).isSome = true ↔ OnClock (m.ms + d.ms) := by
  rw [add?]
  exact Option.isSome_ite

/-- To take a duration away is to add it turned round. -/
theorem sub?_eq_add?_neg (m : Moment) (d : Duration) : m.sub? d = m.add? (-d) := by
  rw [sub?, add?, Duration.ms_neg, Int.sub_eq_add_neg]

/-- Differences are exact but for the ends of the durations, and sums but for the ends of the clock.
A difference is cut to the nearer end, it is the opposite of the difference the other way round, it
has the sign that the order of the moments asks for, and it leads from the second moment to the
first if it is exact, and only then. A sum is given if the clock can show it, and only then; it is
the same by whichever addition, and where there is none the clock stops at the end to which the
duration leads. Taking away is adding what is turned round. No sum changes the offset. -/
theorem exact_or_cut (a b : Moment) (d : Duration) :
    ((a.since b).ms = max (-durationMax) (min durationMax (a.ms - b.ms)) ∧
      .clamp (a.elapsed b).toInt = a.since b ∧ a.since b = -b.since a ∧
      Ord.compare (a.since b).ms 0 = a.compare b ∧
      ((b.shift (a.since b)).ms = a.ms ↔
        -durationMax ≤ a.ms - b.ms ∧ a.ms - b.ms ≤ durationMax)) ∧
    ((a.add? d).isSome = true ↔ OnClock (a.ms + d.ms)) ∧ a.Sums d (a.add? d) (a.shift d) ∧
    a.sub? d = a.add? (-d) ∧ (a.shift d).offset = a.offset :=
  ⟨⟨a.ms_since b, a.clamp_elapsed b, a.since_eq_neg_since b, a.compare_since_zero b,
      ms_shift_since_iff⟩,
    isSome_add?_iff, a.sums d, a.sub?_eq_add?_neg d, a.offset_shift d⟩

end Moment

end Itinerary.Time
