/-!
# Durations

A duration is a whole number of milliseconds that a signed 64-bit word holds together with its
negation, so the range is symmetric: every duration can be reversed. A difference that falls outside
is clamped to the nearer end.
-/

namespace Itinerary.Time

/-- The longest duration in milliseconds. -/
def durationMax : Int := 9223372036854775807

/-- A signed span of time in milliseconds. -/
structure Duration where
  ms : Int
  lower : -durationMax ≤ ms
  upper : ms ≤ durationMax
  deriving DecidableEq

namespace Duration

@[ext] theorem ext {a b : Duration} (h : a.ms = b.ms) : a = b := by
  cases a
  cases b
  simp_all

/-- The duration of a number of milliseconds, if it is one. -/
def ofMs? (ms : Int) : Option Duration :=
  if h : -durationMax ≤ ms ∧ ms ≤ durationMax then some ⟨ms, h.1, h.2⟩ else none

/-- The nearest duration. -/
def clamp (ms : Int) : Duration where
  ms := max (-durationMax) (min durationMax ms)
  lower := by simp only [durationMax]; omega
  upper := by simp only [durationMax]; omega

theorem ms_clamp (ms : Int) :
    (clamp ms).ms = max (-durationMax) (min durationMax ms) := rfl

/-- The same span in the other direction. -/
def neg (d : Duration) : Duration where
  ms := -d.ms
  lower := by have := d.upper; omega
  upper := by have := d.lower; omega

instance : Neg Duration := ⟨neg⟩

/-- Whole minutes, cut toward zero. -/
def minutes (d : Duration) : Int := Int.tdiv d.ms 60000

end Duration

end Itinerary.Time
