/-!
# Classes of characters given as ranges

A class is an ascending array of closed, disjoint ranges of code points, and membership is a binary
search. The search halves its window at every step, so the number of ranges bounds the steps.
-/

namespace Itinerary.Text

/-- Searches the ranges with numbers from `lo` up to but not including `hi`. -/
def inRangesFrom (ranges : Array (Nat × Nat)) (n : Nat) (lo hi : Nat) : Bool :=
  if lo < hi then
    let mid := (lo + hi) / 2
    match ranges[mid]? with
    | none => false
    | some (first, last) =>
      if n < first then inRangesFrom ranges n lo mid
      else if last < n then inRangesFrom ranges n (mid + 1) hi
      else true
  else false
termination_by hi - lo

/-- Whether the code point lies in one of the ranges. -/
def inRanges (ranges : Array (Nat × Nat)) (n : Nat) : Bool :=
  inRangesFrom ranges n 0 ranges.size

end Itinerary.Text
