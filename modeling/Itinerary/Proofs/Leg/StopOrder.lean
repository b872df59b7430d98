import Itinerary.Leg.Ride
import Itinerary.Proofs.Place.Likeness
import Mathlib.Data.List.Nodup

/-!
# Stops and the order of travel

Whether a ride passes one place after another is found out in one go over the stops on the way, and
no stop is counted. What comes of it is said with numbers all the same (`Ride.isAfter_iff`): a place
is after another one if it comes up later for the first time, and if besides the other one is where
the ride starts or the place itself comes up before the last stop. That is so for all rides, also
for those that come by a place twice and for stops without ids. Since it compares numbers, to be
after is a strict order (`Ride.isAfter_strictOrder`).

What it does not establish: this order is not that of travel, even where all stops can be told apart
(`Ride.isAfter_iff_of_discernible`). The last stop is after no stop on the way, and a place where
the ride never stops is after its start (`Ride.isAfter_funicular`).
-/

namespace Itinerary

namespace Location

variable {l a b : Location} {s : Stop} {stops : List Stop}

/-- The number of the first of some stops at a place; the number of all of them if there is none. -/
def firstAmong (l : Location) (stops : List Stop) : Nat :=
  stops.findIdx fun s => s.location.sameId l

/-- A place is found at the first stop with its id. -/
theorem firstAmong_cons_of_sharesId (same : s.location.SharesId l) :
    l.firstAmong (s :: stops) = 0 := by
  rw [firstAmong, List.findIdx_cons, sameId_iff.2 same, cond_true]

/-- A stop that does not share the id of a place is counted and passed. -/
theorem firstAmong_cons_of_not_sharesId (differ : ¬ s.location.SharesId l) :
    l.firstAmong (s :: stops) = l.firstAmong stops + 1 := by
  rw [firstAmong, List.findIdx_cons, Bool.eq_false_iff.2 (mt sameId_iff.1 differ), cond_false]
  rfl

/-- Stops that come later do not matter for where a place comes up, if it does. -/
theorem min_firstAmong_append (l : Location) (stops more : List Stop) :
    min (l.firstAmong (stops ++ more)) stops.length = l.firstAmong stops := by
  have bound : l.firstAmong stops ≤ stops.length := List.findIdx_le_length
  unfold firstAmong at bound ⊢
  rw [List.findIdx_append]
  split
  · omega
  · omega

/-- Places with one id are found at the same stop. -/
theorem firstAmong_congr (same : a.SharesId b) (stops : List Stop) :
    a.firstAmong stops = b.firstAmong stops := by
  unfold firstAmong
  congr 1
  funext s
  rw [Bool.eq_iff_iff, sameId_iff, sameId_iff]
  exact ⟨fun h => h.trans same, fun h => h.trans same.symm⟩

end Location

namespace Ride

open Location

variable {r : Ride} {l other : Location} {i j : Nat}

/-! ## Going through the stops -/

/-- Of two places with different ids the one that comes up first decides, unless the other one was
met before. -/
theorem comesAfter_iff (apart : ¬ l.SharesId other) (met : Bool) (stops : List Stop) :
    comesAfter l other met stops = true ↔
      l.firstAmong stops < stops.length ∧
        (met = true ∨ other.firstAmong stops < l.firstAmong stops) := by
  -- For any `met`, since a stop at the other place changes it for the stops behind.
  induction stops generalizing met with
  | nil => exact iff_of_false nofun fun ⟨short, _⟩ => Nat.lt_irrefl 0 short
  | cons s rest ih =>
    by_cases atOther : s.location.SharesId other
    · have notHere : ¬ s.location.SharesId l := fun here => apart (here.symm.trans atOther)
      rw [comesAfter, if_pos (sameId_iff.2 atOther), ih, firstAmong_cons_of_sharesId atOther,
        firstAmong_cons_of_not_sharesId notHere, List.length_cons]
      simp only [true_or, and_true, Nat.add_lt_add_iff_right, Nat.zero_lt_succ, or_true]
    · rw [comesAfter, if_neg (mt sameId_iff.1 atOther), firstAmong_cons_of_not_sharesId atOther,
        List.length_cons]
      by_cases here : s.location.SharesId l
      · rw [if_pos (sameId_iff.2 here), firstAmong_cons_of_sharesId here]
        simp only [Nat.zero_lt_succ, Nat.not_lt_zero, or_false, true_and]
      · rw [if_neg (mt sameId_iff.1 here), ih, firstAmong_cons_of_not_sharesId here]
        simp only [Nat.add_lt_add_iff_right]

/-- How often a ride stops before it is at a place for the first time; the number of all its stops
if it never is. -/
def stopsBefore (r : Ride) (l : Location) : Nat := l.firstAmong r.stops

/-- The number of the last stop. -/
def lastStop (r : Ride) : Nat := r.intermediateStops.length + 1

/-- A place is after another one if it comes up later for the first time, and the other one is where
the ride starts or the place comes up before the last stop. -/
theorem isAfter_iff (r : Ride) (l other : Location) :
    r.isAfter l other = true ↔
      r.stopsBefore other < r.stopsBefore l ∧
        (r.stopsBefore other = 0 ∨ r.stopsBefore l < r.lastStop) := by
  -- The numbers are over all stops, but only those in front of the last one are gone through.
  have onTheWay := min_firstAmong_append l r.intermediateStops [r.arrivalStop]
  have onTheWay' := min_firstAmong_append other r.intermediateStops [r.arrivalStop]
  simp only [stopsBefore, stops, lastStop, List.cons_append]
  by_cases same : l.SharesId other
  · rw [isAfter, if_pos (sameId_iff.2 same), firstAmong_congr same]
    simp only [Bool.false_eq_true, Nat.lt_irrefl, false_and]
  rw [isAfter, if_neg (mt sameId_iff.1 same)]
  by_cases starts : l.SharesId r.departureStop.location
  · rw [if_pos (sameId_iff.2 starts), firstAmong_cons_of_sharesId starts.symm]
    simp only [Bool.false_eq_true, Nat.not_lt_zero, false_and]
  rw [if_neg (mt sameId_iff.1 starts), firstAmong_cons_of_not_sharesId (mt SharesId.symm starts)]
  by_cases starts' : other.SharesId r.departureStop.location
  · rw [if_pos (sameId_iff.2 starts'), firstAmong_cons_of_sharesId starts'.symm]
    simp only [Nat.zero_lt_succ, true_or, and_true]
  · rw [if_neg (mt sameId_iff.1 starts'),
      firstAmong_cons_of_not_sharesId (mt SharesId.symm starts'), comesAfter_iff same]
    simp only [Bool.false_eq_true, false_or, Nat.add_one_ne_zero]
    omega

/-! ## A strict order -/

/-- To be after is a strict order of the places, wherever a ride stops and whatever is known of its
stops: no place is after itself, of no two places each is after the other, and what is after a place
is after all that this place is after. -/
theorem isAfter_strictOrder (r : Ride) (a b c : Location) :
    r.isAfter a a = false ∧
      ¬ (r.isAfter a b = true ∧ r.isAfter b a = true) ∧
      (r.isAfter a b = true → r.isAfter b c = true → r.isAfter a c = true) := by
  rw [← Bool.not_eq_true]
  simp only [isAfter_iff]
  omega

/-- A ride from one place to another one, by way of others. -/
def tour (start : Location) (onTheWay : List Location) (finish : Location) : Ride :=
  { ofStops (.plain none none (some .bus) (some "R")) none
      { Stop.bare start with plannedDeparture := some ⟨0, .network⟩ }
      { Stop.bare finish with plannedArrival := some ⟨3600000, .network⟩ } rfl rfl with
    intermediateStops := onTheWay.map Stop.bare }

/-- A ring, on which the gate and the market come up again, with a stop of which no id is known. -/
def ring : Ride :=
  tour (stationOf "gate" "Gate")
    [stationOf "market" "Market", .ofName .station "Mill",
      stationOf "bridge" "Bridge", stationOf "gate" "Gate", stationOf "harbour" "Harbour",
      stationOf "market" "Market"]
    (stationOf "gate" "Gate")

/-- On the ring, the harbour comes after the bridge and the bridge after the market. -/
theorem isAfter_strictOrder_ring :
    ring.isAfter (stationOf "harbour" "") (stationOf "bridge" "") = true ∧
      ring.isAfter (stationOf "bridge" "") (stationOf "market" "") = true ∧
      ring.isAfter (stationOf "harbour" "") (stationOf "market" "") = true := by
  have first : ring.isAfter (stationOf "harbour" "") (stationOf "bridge" "") = true := by decide
  have second : ring.isAfter (stationOf "bridge" "") (stationOf "market" "") = true := by decide
  exact ⟨first, second, (isAfter_strictOrder ring _ _ _).2.2 first second⟩

/-! ## Stops that can be told apart -/

/-- A ride whose stops have ids, and no two of them the same. -/
structure Discernible (r : Ride) : Prop where
  identified : ∀ s ∈ r.stops, s.location.hasId = true
  apart : (r.stops.map fun s => s.location.id).Nodup

/-- A place is where a ride makes the stop with a number. -/
def StopsAt (r : Ride) (l : Location) (i : Nat) : Prop :=
  ∃ s, r.stops[i]? = some s ∧ s.location.SharesId l

/-- A place where a ride stops. -/
def Visits (r : Ride) (l : Location) : Prop := ∃ i, r.StopsAt l i

/-- A ride stops at one place and later at another one. -/
def Precedes (r : Ride) (l other : Location) : Prop :=
  ∃ i j, r.StopsAt l i ∧ r.StopsAt other j ∧ i < j

theorem length_stops (r : Ride) : r.stops.length = r.lastStop + 1 := by
  simp only [stops, lastStop, List.length_append, List.length_cons, List.length_nil]

/-- The stop at which a place is found is a stop at that place, if the place is found at all. -/
theorem stopsAt_stopsBefore (visited : r.stopsBefore l ≤ r.lastStop) :
    r.StopsAt l (r.stopsBefore l) := by
  have inside : r.stops.findIdx (fun s => s.location.sameId l) < r.stops.length := by
    rw [length_stops]
    exact Nat.lt_succ_of_le visited
  exact ⟨_, List.getElem?_eq_getElem inside, sameId_iff.1 (List.findIdx_getElem (w := inside))⟩

theorem StopsAt.le_lastStop (there : r.StopsAt l i) : i ≤ r.lastStop := by
  obtain ⟨s, found, -⟩ := there
  have inside := (List.getElem?_eq_some_iff.1 found).1
  rw [length_stops] at inside
  exact Nat.le_of_lt_succ inside

/-- No stop at a place is before the one at which it is found. -/
theorem StopsAt.stopsBefore_le (there : r.StopsAt l i) : r.stopsBefore l ≤ i := by
  obtain ⟨s, found, same⟩ := there
  obtain ⟨inside, rfl⟩ := List.getElem?_eq_some_iff.1 found
  refine Nat.le_of_not_lt fun early => ?_
  have unmet := List.not_of_lt_findIdx early
  exact Bool.false_ne_true (unmet.symm.trans (sameId_iff.2 same))

namespace Discernible

/-- Among stops that can be told apart no place comes up twice. -/
theorem stopsAt_unique (discernible : r.Discernible) (first : r.StopsAt l i)
    (second : r.StopsAt l j) : i = j := by
  have inside : i < r.stops.length := by
    rw [length_stops]
    exact Nat.lt_succ_of_le first.le_lastStop
  obtain ⟨s, found, id, -, left, here⟩ := first
  obtain ⟨s', found', id', -, left', here'⟩ := second
  have same : s.location.id = s'.location.id := by
    rw [left, left', ← here, ← here']
  refine (List.getElem?_inj ((List.length_map _).symm ▸ inside) discernible.apart).1 ?_
  rw [List.getElem?_map, List.getElem?_map, found, found', Option.map_some, Option.map_some, same]

/-- Where stops can be told apart, the only stop at a place is the one at which it is found. -/
theorem stopsAt_iff (discernible : r.Discernible) :
    r.StopsAt l i ↔ i = r.stopsBefore l ∧ i ≤ r.lastStop := by
  constructor
  · intro there
    have first := stopsAt_stopsBefore (Nat.le_trans there.stopsBefore_le there.le_lastStop)
    exact ⟨discernible.stopsAt_unique there first, there.le_lastStop⟩
  · rintro ⟨rfl, visited⟩
    exact stopsAt_stopsBefore visited

/-- Where stops can be told apart, a place is on the ride if it is found at one of the stops. -/
theorem visits_iff (discernible : r.Discernible) : r.Visits l ↔ r.stopsBefore l ≤ r.lastStop := by
  simp only [Visits, discernible.stopsAt_iff, exists_eq_left]

/-- Where stops can be told apart, one place comes before another just if it is found at an earlier
stop. -/
theorem precedes_iff (discernible : r.Discernible) :
    r.Precedes l other ↔
      r.stopsBefore l < r.stopsBefore other ∧ r.stopsBefore other ≤ r.lastStop := by
  simp only [Precedes, discernible.stopsAt_iff]
  constructor
  · rintro ⟨i, j, ⟨rfl, -⟩, ⟨rfl, visited⟩, earlier⟩
    exact ⟨earlier, visited⟩
  · rintro ⟨earlier, visited⟩
    exact ⟨_, _, ⟨rfl, by omega⟩, ⟨rfl, visited⟩, earlier⟩

end Discernible

/-- Where all stops can be told apart, a place is after another one if the ride stops there later,
unless it is the last stop and the other one is on the way; and besides each place where the ride
never stops is after its start. So it is told in which order the ride stops at two places unless it
is asked for the last stop and one on the way, or for a place elsewhere and the start. -/
theorem isAfter_iff_of_discernible (discernible : r.Discernible) (l other : Location) :
    (r.isAfter l other = true ↔
      (r.Precedes other l ∧ (r.StopsAt other 0 ∨ ¬ r.StopsAt l r.lastStop)) ∨
        (r.StopsAt other 0 ∧ ¬ r.Visits l)) ∧
    ((r.isAfter l other = true ↔ r.Precedes other l) ↔
      ¬ (r.StopsAt l r.lastStop ∧ ∃ i, 0 < i ∧ i < r.lastStop ∧ r.StopsAt other i) ∧
        ¬ (r.StopsAt other 0 ∧ ¬ r.Visits l)) := by
  have onTheWay : (∃ i, 0 < i ∧ i < r.lastStop ∧ r.StopsAt other i) ↔
      0 < r.stopsBefore other ∧ r.stopsBefore other < r.lastStop := by
    simp only [discernible.stopsAt_iff]
    constructor
    · rintro ⟨i, later, earlier, rfl, -⟩
      exact ⟨later, earlier⟩
    · rintro ⟨later, earlier⟩
      exact ⟨_, later, earlier, rfl, Nat.le_of_lt earlier⟩
  have ends : 0 < r.lastStop := Nat.zero_lt_succ _
  rw [onTheWay, isAfter_iff, discernible.precedes_iff, discernible.visits_iff,
    discernible.stopsAt_iff, discernible.stopsAt_iff]
  omega

/-! ## Up a mountain -/

def funicular : Ride :=
  tour (stationOf "valley" "Valley") [stationOf "halfway" "Halfway", stationOf "chapel" "Chapel"]
    (stationOf "summit" "Summit")

theorem discernible_funicular : funicular.Discernible := ⟨by decide, by decide⟩

/-- The chapel comes after the stop halfway, and that is what is said of it. -/
theorem isAfter_iff_of_discernible_funicular :
    funicular.Discernible ∧
      (funicular.isAfter (stationOf "chapel" "") (stationOf "halfway" "") = true ↔
        funicular.Precedes (stationOf "halfway" "") (stationOf "chapel" "")) := by
  refine ⟨discernible_funicular,
    (isAfter_iff_of_discernible discernible_funicular _ _).2.2 ⟨?_, ?_⟩⟩
  · rintro ⟨⟨s, found, same⟩, -⟩
    obtain rfl := Option.some.inj found
    exact absurd same (by decide)
  · rintro ⟨⟨s, found, same⟩, -⟩
    obtain rfl := Option.some.inj found
    exact absurd same (by decide)

/-- The funicular stops at the chapel and then at the summit, but the summit is not after the
chapel; and it never stops at the hut, but the hut is after the valley. -/
theorem isAfter_funicular :
    funicular.Discernible ∧
      (funicular.Precedes (stationOf "chapel" "") (stationOf "summit" "") ∧
        funicular.isAfter (stationOf "summit" "") (stationOf "chapel" "") = false) ∧
      ¬ funicular.Visits (stationOf "hut" "") ∧
        funicular.isAfter (stationOf "hut" "") (stationOf "valley" "") = true := by
  refine ⟨discernible_funicular, ⟨⟨2, 3, ?_, ?_, by decide⟩, by decide⟩, ?_, by decide⟩
  · exact ⟨_, rfl, by decide⟩
  · exact ⟨_, rfl, by decide⟩
  · rw [discernible_funicular.visits_iff]
    decide

end Ride

end Itinerary
