import Itinerary.Time.Moment

/-!
# How far clocks and durations reach

A duration reaches as far into the future as into the past. The clock of a moment reaches as far as
that from the epoch on, and one millisecond farther before it (`Moment.ms_bounds`). What falls
outside is brought to the nearer end, of the clock by a sum (`Moment.ms_shift`) and of the durations
by a difference (`Moment.ms_since`). Differences keep the order of what they measure
(`Moment.since_nonneg`, `Moment.since_mono`), and clamping loses nothing but what is out of reach
(`Duration.clamp_eq_clamp_iff`).
-/

namespace Itinerary.Time

theorem durationMax_pos : 0 < durationMax := by decide

/-- The clock starts one millisecond farther from the epoch than a duration reaches. -/
theorem clock_start : Int64.minValue.toInt = -durationMax - 1 := rfl

/-- The clock ends as far from the epoch as a duration reaches. -/
theorem clock_end : Int64.maxValue.toInt = durationMax := rfl

/-- A number is brought to the nearer end of the clock. -/
theorem toInt_ofIntClamp (n : Int) :
    (Int64.ofIntClamp n).toInt = max (-durationMax - 1) (min durationMax n) := by
  have positive := durationMax_pos
  have lowest := clock_start
  have highest := clock_end
  unfold Int64.ofIntClamp
  split
  · split
    · rw [Int64.toInt_ofIntLE]
      omega
    · omega
  · omega

/-- Two numbers are brought to the same duration if they are equal or both out of reach on the same
side. -/
theorem Duration.clamp_eq_clamp_iff {a b : Int} :
    clamp a = clamp b ↔
      a = b ∨ (durationMax ≤ a ∧ durationMax ≤ b) ∨ (a ≤ -durationMax ∧ b ≤ -durationMax) := by
  have positive := durationMax_pos
  constructor
  · intro same
    have ms := congrArg Duration.ms same
    rw [ms_clamp, ms_clamp] at ms
    omega
  · intro alike
    ext
    rw [ms_clamp, ms_clamp]
    omega

namespace Moment

/-- Of two moments, either the first one is before the second or it is not earlier. -/
theorem before_eq_false_iff {a b : Moment} : a.before b = false ↔ b.ms ≤ a.ms := by
  rw [before, decide_eq_false_iff_not, Int.not_lt]

/-- Clocks go as far as durations do, and one millisecond farther into the past. -/
theorem ms_bounds (m : Moment) : -durationMax - 1 ≤ m.ms ∧ m.ms ≤ durationMax :=
  ⟨Int64.minValue_le_toInt m.instant, Int64.toInt_le m.instant⟩

/-- A sum is brought to the nearer end of the clock. -/
theorem ms_shift (m : Moment) (d : Duration) :
    (m.shift d).ms = max (-durationMax - 1) (min durationMax (m.ms + d.ms)) :=
  toInt_ofIntClamp _

/-- A difference is brought to the nearer end of the durations. -/
theorem ms_since (a b : Moment) :
    (a.since b).ms = max (-durationMax) (min durationMax (a.ms - b.ms)) := rfl

/-- From one moment to a later one it is a while. -/
theorem since_nonneg {a b : Moment} (ordered : b.ms ≤ a.ms) : 0 ≤ (a.since b).ms := by
  have positive := durationMax_pos
  rw [ms_since]
  omega

/-- It is no longer between two moments than from an earlier to a later one. -/
theorem since_mono {a b first last : Moment} (before : first.ms ≤ b.ms) (after : a.ms ≤ last.ms) :
    (a.since b).ms ≤ (last.since first).ms := by
  rw [ms_since, ms_since]
  omega

end Moment

end Itinerary.Time
