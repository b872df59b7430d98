import Itinerary.Proofs.Decimal.Digits
import Itinerary.Proofs.Text.Separated
import Itinerary.Trip.Identity
import Mathlib.Data.List.Forall2

/-!
# What a unique id tells

The unique id of a trip is the keys of its rides with slashes between them, and a key is put
together with three more marks: an at sign, commas and a tilde. Where places and lines hold none of
these marks, the id is taken apart again without doubt, so trips with the same unique id go, ride by
ride, on the same journey between the same places in the same minutes
(`Trip.uniqueIdBy_eq_iff`). Journeys that have names enter by a digest of sixteen hexadecimal
digits, and nothing is assumed of that digest.

A journey without a name is told from one with a name by the tilde, which stands in the keys of the
former only.
-/

namespace Itinerary

/-- The marks between the parts of a unique id. -/
def keyMarks : List Char := ['@', ',', '~', '/']

/-- A text that none of the marks is in. -/
def Unmarked (cs : List Char) : Prop := ∀ mark ∈ keyMarks, mark ∉ cs

theorem unmarked_of_forall {cs : List Char} (h : ∀ c ∈ cs, c ∉ keyMarks) : Unmarked cs :=
  fun mark known mem => h mark mem known

instance (cs : List Char) : Decidable (Unmarked cs) :=
  List.decidableBAll (fun mark => mark ∉ cs) keyMarks

theorem unmarked_signed (i : Int) : Unmarked (Decimal.signed i) := by
  refine unmarked_of_forall fun c mem => ?_
  have none : ∀ mark ∈ keyMarks, ¬ (mark = '-' ∨ mark.isDigit) := by simp [keyMarks]
  exact fun known => none c known (Decimal.mem_signed mem)

/-! ## Sixteen digits -/

/-- Digits of a number are those of values below sixteen. -/
theorem exists_digit_of_mem_toDigits {n : Nat} {c : Char} (mem : c ∈ Nat.toDigits 16 n) :
    ∃ d < 16, c = Text.Hex.digit d := by
  induction n using Nat.strongRecOn with
  | ind n ih =>
    by_cases small : n < 16
    · rw [Nat.toDigits_of_lt_base small] at mem
      exact ⟨n, small, List.mem_singleton.1 mem⟩
    · rw [Nat.toDigits_of_base_le (by decide) (by omega)] at mem
      rcases List.mem_append.1 mem with front | last
      · exact ih (n / 16) (by omega) front
      · exact ⟨n % 16, by omega, List.mem_singleton.1 last⟩

/-- The number that hexadecimal digits stand for. -/
def hexValue (cs : List Char) : Nat :=
  cs.foldl (fun value c => value * 16 + (Text.Hex.value? c).getD 0) 0

theorem hexValue_toDigits (n : Nat) : hexValue (Nat.toDigits 16 n) = n := by
  induction n using Nat.strongRecOn with
  | ind n ih =>
    by_cases small : n < 16
    · rw [Nat.toDigits_of_lt_base small]
      show 0 * 16 + (Text.Hex.value? (Text.Hex.digit n)).getD 0 = n
      rw [Text.Hex.value?_digit small, Option.getD_some]
      omega
    · have last : Text.Hex.value? (n % 16).digitChar = some (n % 16) :=
        Text.Hex.value?_digit (by omega)
      rw [Nat.toDigits_of_base_le (by decide) (by omega), hexValue, List.foldl_append]
      show hexValue (Nat.toDigits 16 (n / 16)) * 16 + _ = n
      rw [ih (n / 16) (by omega), last, Option.getD_some]
      omega

/-- Zeros in front do not change the value. -/
theorem hexValue_zeros (k : Nat) (cs : List Char) :
    hexValue (List.replicate k '0' ++ cs) = hexValue cs := by
  induction k with
  | zero => rfl
  | succ k ih => exact ih

/-- A word is read back from its mark of sixteen digits. -/
theorem hexValue_wordMark (w : UInt64) : hexValue (wordMark w) = w.toNat := by
  rw [wordMark, hexValue_zeros, hexValue_toDigits]

theorem wordMark_injective {v w : UInt64} (same : wordMark v = wordMark w) : v = w := by
  have values := congrArg hexValue same
  rw [hexValue_wordMark, hexValue_wordMark] at values
  exact UInt64.toNat_inj.1 values

theorem unmarked_wordMark (w : UInt64) : Unmarked (wordMark w) := by
  refine unmarked_of_forall fun c mem => ?_
  have digits : ∀ d < 16, Text.Hex.digit d ∉ keyMarks := by decide
  rcases List.mem_append.1 mem with zeros | digit
  · rw [List.eq_of_mem_replicate zeros]
    decide
  · obtain ⟨d, small, rfl⟩ := exists_digit_of_mem_toDigits digit
    exact digits d small

/-! ## One ride -/

namespace Ride

/-- A ride with a key that can be taken apart: no mark is in what its ends are recognised by or in
what its line is known by. -/
structure Distinct (r : Ride) : Prop where
  departure : Unmarked r.departureStop.location.identity.toList
  arrival : Unmarked r.arrivalStop.location.identity.toList
  line : Unmarked r.lineKey.toList

instance (r : Ride) : Decidable r.Distinct :=
  decidable_of_iff (Unmarked r.departureStop.location.identity.toList ∧
      Unmarked r.arrivalStop.location.identity.toList ∧ Unmarked r.lineKey.toList)
    ⟨fun ⟨departure, arrival, line⟩ => ⟨departure, arrival, line⟩,
      fun h => ⟨h.departure, h.arrival, h.line⟩⟩

/-- Two rides on the same journey: one with the same digest of its name, or, where neither journey
has a name, on the same line. -/
def SameJourney (digest : String → UInt64) (a b : Ride) : Prop :=
  match a.journey, b.journey with
  | some x, some y => digest x.text = digest y.text
  | none, none => a.lineKey = b.lineKey
  | _, _ => False

/-- Two rides on the same journey between the same places, boarded in the same minute and left in
the same minute, as planned where that is known. -/
structure Matches (digest : String → UInt64) (a b : Ride) : Prop where
  journey : SameJourney digest a b
  departure : a.departureStop.location.identity = b.departureStop.location.identity
  boarding : a.boarding.minute = b.boarding.minute
  arrival : a.arrivalStop.location.identity = b.arrivalStop.location.identity
  leaving : a.leaving.minute = b.leaving.minute

variable {digest : String → UInt64} {a b r : Ride}

/-- With a name, the key of a journey is the digest of it. -/
theorem journeyKey_of_some {x : JourneyRef} (named : r.journey = some x) :
    r.journeyKey digest = wordMark (digest x.text) := by
  unfold journeyKey
  rw [named]

/-- Without a name, the key of a journey is the line and the minute of boarding. -/
theorem journeyKey_of_none (nameless : r.journey = none) :
    r.journeyKey digest = r.lineKey.toList ++ '~' :: Decimal.signed r.boarding.minute := by
  unfold journeyKey
  rw [nameless]

/-- Only a journey without a name has a tilde in its key. -/
theorem tilde_mem_journeyKey_iff : '~' ∈ r.journeyKey digest ↔ r.journey = none := by
  cases named : r.journey with
  | some x =>
    rw [journeyKey_of_some named]
    constructor
    · intro tilde
      exact absurd tilde (unmarked_wordMark _ '~' (by decide))
    · nofun
  | none =>
    rw [journeyKey_of_none named]
    simp

/-- The tilde is the only mark in the key of a journey. -/
theorem not_mem_journeyKey (h : r.Distinct) {mark : Char} (known : mark ∈ keyMarks)
    (other : mark ≠ '~') : mark ∉ r.journeyKey digest := by
  cases named : r.journey with
  | some x =>
    rw [journeyKey_of_some named]
    exact unmarked_wordMark _ mark known
  | none =>
    rw [journeyKey_of_none named]
    intro mem
    rcases List.mem_append.1 mem with line | rest
    · exact h.line mark known line
    · rcases List.mem_cons.1 rest with tilde | minute
      · exact other tilde
      · exact unmarked_signed _ mark known minute

/-- Rides with one key are on the same journey, if no mark of a key is in what the line is known by.
-/
theorem sameJourney_of_journeyKey_eq (ha : a.Distinct) (hb : b.Distinct)
    (same : a.journeyKey digest = b.journeyKey digest) : SameJourney digest a b := by
  have both : a.journey = none ↔ b.journey = none := by
    rw [← tilde_mem_journeyKey_iff, ← tilde_mem_journeyKey_iff, same]
  unfold SameJourney
  cases named : a.journey with
  | some x =>
    cases named' : b.journey with
    | some y =>
      rw [journeyKey_of_some named, journeyKey_of_some named'] at same
      exact wordMark_injective same
    | none => simp [named, named'] at both
  | none =>
    cases named' : b.journey with
    | some y => simp [named, named'] at both
    | none =>
      rw [journeyKey_of_none named, journeyKey_of_none named'] at same
      obtain ⟨line, -⟩ := Text.append_cons_inj (ha.line '~' (by decide))
        (hb.line '~' (by decide)) same
      exact String.toList_inj.1 line

/-- On the same journey and boarded in the same minute, rides have one key. -/
theorem journeyKey_eq_of_sameJourney (journey : SameJourney digest a b)
    (boarding : a.boarding.minute = b.boarding.minute) :
    a.journeyKey digest = b.journeyKey digest := by
  unfold SameJourney at journey
  cases named : a.journey with
  | some x =>
    cases named' : b.journey with
    | some y =>
      simp only [named, named'] at journey
      rw [journeyKey_of_some named, journeyKey_of_some named', journey]
    | none => simp only [named, named'] at journey
  | none =>
    cases named' : b.journey with
    | some y => simp only [named, named'] at journey
    | none =>
      simp only [named, named'] at journey
      rw [journeyKey_of_none named, journeyKey_of_none named', journey, boarding]

/-- A key with the rest of it behind each mark. -/
theorem key_eq (r : Ride) :
    r.key digest =
      r.journeyKey digest ++ '@' :: (r.departureStop.location.identity.toList ++
        ',' :: (Decimal.signed r.boarding.minute ++
          ',' :: (r.arrivalStop.location.identity.toList ++
            ',' :: Decimal.signed r.leaving.minute))) := by
  simp only [key, List.append_assoc, List.cons_append]

/-- No slash is in the key of a ride, so slashes part the keys of a trip. -/
theorem slash_not_mem_key (h : r.Distinct) : '/' ∉ r.key digest := by
  have slash : '/' ∈ keyMarks := by decide
  have journey : '/' ∉ r.journeyKey digest := not_mem_journeyKey h slash (by decide)
  have departure := h.departure '/' slash
  have boarding := unmarked_signed r.boarding.minute '/' slash
  have arrival := h.arrival '/' slash
  have leaving := unmarked_signed r.leaving.minute '/' slash
  simp [key_eq, journey, departure, boarding, arrival, leaving]

/-- A key is known by its five parts, and they by it. -/
theorem key_eq_iff (ha : a.Distinct) (hb : b.Distinct) :
    a.key digest = b.key digest ↔ Matches digest a b := by
  constructor
  · intro same
    rw [key_eq, key_eq] at same
    have at_ : '@' ∈ keyMarks := by decide
    have comma : ',' ∈ keyMarks := by decide
    obtain ⟨journey, same⟩ := Text.append_cons_inj (not_mem_journeyKey ha at_ (by decide))
      (not_mem_journeyKey hb at_ (by decide)) same
    obtain ⟨departure, same⟩ :=
      Text.append_cons_inj (ha.departure ',' comma) (hb.departure ',' comma) same
    obtain ⟨boarding, same⟩ :=
      Text.append_cons_inj (unmarked_signed _ ',' comma) (unmarked_signed _ ',' comma) same
    obtain ⟨arrival, leaving⟩ :=
      Text.append_cons_inj (ha.arrival ',' comma) (hb.arrival ',' comma) same
    exact ⟨sameJourney_of_journeyKey_eq ha hb journey, String.toList_inj.1 departure,
      Decimal.signed_injective boarding, String.toList_inj.1 arrival,
      Decimal.signed_injective leaving⟩
  · rintro ⟨journey, departure, boarding, arrival, leaving⟩
    rw [key_eq, key_eq, journeyKey_eq_of_sameJourney journey boarding, departure, boarding,
      arrival, leaving]

end Ride

/-! ## Whole trips -/

namespace Trip

variable {digest : String → UInt64} {a b : Trip}

/-- The unique id of a trip with rides is made of their keys. -/
theorem uniqueIdBy_of_rides {t : Trip} (some : t.rides ≠ []) :
    t.uniqueIdBy digest =
      String.ofList (['/'].intercalate (t.rides.map (Ride.key digest))) := by
  unfold uniqueIdBy
  rw [if_neg]
  simpa only [List.isEmpty_iff] using some

/-- Two trips with rides have the same unique id just when they have the same number of rides and
these match one by one. -/
theorem uniqueIdBy_eq_iff (rides : a.rides ≠ []) (rides' : b.rides ≠ [])
    (distinct : ∀ r ∈ a.rides, r.Distinct) (distinct' : ∀ r ∈ b.rides, r.Distinct) :
    a.uniqueIdBy digest = b.uniqueIdBy digest ↔
      List.Forall₂ (Ride.Matches digest) a.rides b.rides := by
  rw [uniqueIdBy_of_rides rides, uniqueIdBy_of_rides rides', String.ofList_inj]
  exact Text.intercalate_map_eq_iff rides rides'
    (fun r mem => Ride.slash_not_mem_key (distinct r mem))
    (fun r mem => Ride.slash_not_mem_key (distinct' r mem))
    fun r mem other mem' => Ride.key_eq_iff (distinct r mem) (distinct' other mem')

/-! ## A crossing

A ferry and a bus behind it, planned half a minute apart in two answers. -/

def harbour : Location := .stationOf "harbour" "Harbour"

def island : Location := .stationOf "island" "Island"

def village : Location := .stationOf "village" "Village"

/-- The ride between two places, planned to leave and to arrive after so many seconds. -/
def crossingRide (label : String) (journey : Option JourneyRef) (start finish : Location)
    (leaves arrives : Int64) : Ride :=
  { Ride.ofStops (.plain none none none (some label)) none
      { Stop.bare start with plannedDeparture := some ⟨leaves * 1000, .network⟩ }
      { Stop.bare finish with plannedArrival := some ⟨arrives * 1000, .network⟩ } rfl rfl with
    journey }

/-- The crossing that starts after so many seconds. -/
def crossing (start : Int64) : Trip :=
  .ofLegs ⟨0, 0⟩ none harbour village
    [.ride (crossingRide "F1" (some ⟨"ferry of six"⟩) harbour island start 3000),
    .ride (crossingRide "B2" none island village (start + 3600) 5400)]
    (List.cons_ne_nil _ _)

/-- Half a minute late, the crossing has the same unique id, and its rides match those on time. -/
theorem uniqueIdBy_eq_iff_crossing :
    (crossing 0).rides ≠ [] ∧ (crossing 30).rides ≠ [] ∧
      (∀ r ∈ (crossing 0).rides, r.Distinct) ∧ (∀ r ∈ (crossing 30).rides, r.Distinct) ∧
      (crossing 0).uniqueId = (crossing 30).uniqueId ∧
      List.Forall₂ (Ride.Matches Digest.ofText) (crossing 0).rides (crossing 30).rides := by
  have rides : (crossing 0).rides ≠ [] := List.cons_ne_nil _ _
  have rides' : (crossing 30).rides ≠ [] := List.cons_ne_nil _ _
  have distinct : ∀ r ∈ (crossing 0).rides, r.Distinct := by decide
  have distinct' : ∀ r ∈ (crossing 30).rides, r.Distinct := by decide
  have ferry : Ride.Matches Digest.ofText
      (crossingRide "F1" (some ⟨"ferry of six"⟩) harbour island 0 3000)
      (crossingRide "F1" (some ⟨"ferry of six"⟩) harbour island 30 3000) :=
    ⟨rfl, rfl, by decide, rfl, rfl⟩
  have bus : Ride.Matches Digest.ofText (crossingRide "B2" none island village 3600 5400)
      (crossingRide "B2" none island village 3630 5400) :=
    ⟨rfl, rfl, by decide, rfl, rfl⟩
  have matches_ : List.Forall₂ (Ride.Matches Digest.ofText) (crossing 0).rides
      (crossing 30).rides := .cons ferry (.cons bus .nil)
  exact ⟨rides, rides', distinct, distinct',
    (uniqueIdBy_eq_iff rides rides' distinct distinct').2 matches_, matches_⟩

end Trip

end Itinerary
