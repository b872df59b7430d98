import Itinerary.Proofs.Order.Listing
import Itinerary.Timetable.Backend
import Itinerary.Trip.Repair

/-!
# What changes to a trip leave alone

A trip that is there may still be given paths and details, and its legs may be repaired. None of
this touches the course of a leg: for a ride everything but its path, for a traveller's own leg how
and from where to where it goes (`Leg.course`). Both ids of a trip, its changes, its products and
its riding time follow from the courses of its legs and from what else no change touches
(`Trip.SameWay.keeps`).

A program works out an id when it is first asked for one and then keeps it (`Trip.Memo`). Since no
change touches an id, what was kept is never out of date: whatever is done to a trip and whenever it
is asked, it gives the ids that it had at the start (`Trip.Memo.run_keeps`).
-/

namespace Itinerary

open Time (Stamp)

/-! ## Courses -/

/-- What no change to a trip touches about one of its legs. -/
inductive Course where
  | own (movement : Movement) (start finish : Location) (distance : UInt32)
  /-- A ride without its path. -/
  | ride (ride : Ride)

/-- The ride without its path. -/
def Ride.pathless (r : Ride) : Ride := { r with path := none }

namespace Leg

def course : Leg → Course
  | own l => .own l.movement l.start l.finish l.distance
  | ride r => .ride r.pathless

variable {a b l moved : Leg}

/-- A path is no part of the course of a leg. -/
theorem course_withPath (points : List Point) (l : Leg) :
    (l.withPath points).course = l.course := by
  cases l with
  | own l => rfl
  | ride r => rfl

/-- A leg that is moved behind another one keeps its course, for times are no part of it. -/
theorem course_movedBehind {previous : Time.Moment} (h : l.movedBehind previous = some moved) :
    moved.course = l.course := by
  cases l with
  | own l =>
    by_cases early : l.departure.before previous
    · simp only [movedBehind, early, if_true, Option.some.injEq] at h
      subst h
      rfl
    · simp only [movedBehind, early] at h
      cases h
  | ride r => cases h

/-- Giving one leg a path leaves all courses as they were. -/
theorem map_course_modify (points : List Point) (legs : List Leg) (index : Nat) :
    (legs.modify index (withPath points)).map course = legs.map course := by
  induction legs generalizing index with
  | nil => simp only [List.modify_nil]
  | cons l legs ih =>
    cases index with
    | zero => simp only [List.modify_zero_cons, List.map_cons, course_withPath]
    | succ index => simp only [List.modify_succ_cons, List.map_cons, ih]

/-- A repair from some leg on leaves all courses as they were. -/
theorem map_course_repairedBehind (previous : Time.Moment) (legs : List Leg) :
    (repairedBehind previous legs).1.map course = legs.map course := by
  induction legs generalizing previous with
  | nil => rfl
  | cons l legs ih =>
    unfold repairedBehind
    split
    · rename_i moved found
      simp only [List.map_cons, course_movedBehind found, ih]
    · simp only [List.map_cons, ih]

/-- A repair leaves all courses as they were. -/
theorem map_course_repaired (legs : List Leg) :
    (repaired legs).1.map course = legs.map course := by
  cases legs with
  | nil => rfl
  | cons l legs => simp only [repaired, List.map_cons, map_course_repairedBehind]

/-- What the id of a trip says about a leg is in the course of the leg. -/
theorem mark_eq_of_course_eq (same : a.course = b.course) : a.mark = b.mark := by
  cases a with
  | own a =>
    cases b with
    | own b =>
      obtain ⟨-, start, finish, -⟩ := Course.own.inj same
      simp only [mark, Leg.start, Leg.finish, start, finish]
    | ride b => cases same
  | ride a =>
    cases b with
    | own b => cases same
    | ride b =>
      have pathless : a.pathless = b.pathless := Course.ride.inj same
      show (ride a.pathless).mark = (ride b.pathless).mark
      rw [pathless]

end Leg

/-- The ride of a course, if it is one. -/
def Course.ride? : Course → Option Ride
  | own _ _ _ _ => none
  | ride r => some r

namespace Trip

variable {t a b c : Trip}

/-- Rides without their paths are known from the courses of the legs. -/
theorem map_pathless_rides (t : Trip) :
    t.rides.map Ride.pathless = (t.legs.map Leg.course).filterMap Course.ride? := by
  rw [rides, List.map_filterMap, List.filterMap_map]
  congr 1
  funext l
  cases l with
  | own l => rfl
  | ride r => rfl

/-- The riding time from the times of all rides. -/
theorem ridingTime_eq (t : Trip) :
    t.ridingTime =
      (t.rides.map fun r => r.departure false).head?.bind fun start =>
        (t.rides.map fun r => r.arrival false).getLast?.map fun finish => finish.since start := by
  rw [ridingTime, List.head?_map, List.getLast?_map]
  cases t.rides.head? with
  | none => rfl
  | some first =>
    cases t.rides.getLast? with
    | none => rfl
    | some last => rfl

/-! ## The same way -/

/-- Two trips that go the same way, as far as no change touches it. -/
structure SameWay (a b : Trip) : Prop where
  explicitId : b.explicitId = a.explicitId
  explicitChanges : b.explicitChanges = a.explicitChanges
  origin : b.origin = a.origin
  destination : b.destination = a.destination
  created : b.created = a.created
  courses : b.legs.map Leg.course = a.legs.map Leg.course

/-- All that two trips have in common when one came of the other by changes. -/
structure Keeps (a b : Trip) : Prop where
  id : b.id = a.id
  derivedId : b.derivedId = a.derivedId
  uniqueId : ∀ digest, b.uniqueIdBy digest = a.uniqueIdBy digest
  changes : b.changes = a.changes
  products : b.products = a.products
  ridingTime : b.ridingTime = a.ridingTime
  explicitId : b.explicitId = a.explicitId
  origin : b.origin = a.origin
  destination : b.destination = a.destination
  created : b.created = a.created
  legCount : b.legs.length = a.legs.length
  courses : b.legs.map Leg.course = a.legs.map Leg.course

namespace SameWay

theorem refl (t : Trip) : SameWay t t := ⟨rfl, rfl, rfl, rfl, rfl, rfl⟩

theorem trans (first : SameWay a b) (second : SameWay b c) : SameWay a c where
  explicitId := second.explicitId.trans first.explicitId
  explicitChanges := second.explicitChanges.trans first.explicitChanges
  origin := second.origin.trans first.origin
  destination := second.destination.trans first.destination
  created := second.created.trans first.created
  courses := second.courses.trans first.courses

theorem legCount (same : SameWay a b) : b.legs.length = a.legs.length := by
  have lengths := congrArg List.length same.courses
  rwa [List.length_map, List.length_map] at lengths

/-- No change touches anything of a ride but its path. -/
theorem rides (same : SameWay a b) : b.rides.map Ride.pathless = a.rides.map Ride.pathless := by
  rw [map_pathless_rides, map_pathless_rides, same.courses]

/-- Whatever is said about each ride without looking at its path. -/
theorem map_rides (same : SameWay a b) {α : Type} (f : Ride → α)
    (pathless : ∀ r, f r.pathless = f r) : b.rides.map f = a.rides.map f := by
  have composed : f ∘ Ride.pathless = f := funext pathless
  rw [← composed, ← List.map_map, same.rides, List.map_map]

theorem isEmpty_rides (same : SameWay a b) : b.rides.isEmpty = a.rides.isEmpty := by
  have empty := congrArg List.isEmpty same.rides
  rwa [List.isEmpty_map, List.isEmpty_map] at empty

theorem length_rides (same : SameWay a b) : b.rides.length = a.rides.length := by
  have lengths := congrArg List.length same.rides
  rwa [List.length_map, List.length_map] at lengths

/-- Both ids are made of the marks of legs, and these follow from their courses. -/
theorem marks (same : SameWay a b) : b.legs.map Leg.mark = a.legs.map Leg.mark := by
  have courses : List.Forall₂ (fun l m => l.course = m.course) b.legs a.legs :=
    (map_eq_map_iff fun _ _ _ _ => Iff.rfl).1 same.courses
  exact map_eq_of_forall₂ (fun _ _ same => Leg.mark_eq_of_course_eq same) courses

theorem derivedId (same : SameWay a b) : b.derivedId = a.derivedId := by
  rw [Trip.derivedId, Trip.derivedId, same.marks]

theorem id (same : SameWay a b) : b.id = a.id :=
  id_congr same.explicitId same.marks

theorem uniqueIdBy (same : SameWay a b) (digest : String → UInt64) :
    b.uniqueIdBy digest = a.uniqueIdBy digest :=
  uniqueIdBy_congr same.id (same.map_rides _ fun _ => rfl)

theorem changes (same : SameWay a b) : b.changes = a.changes := by
  rw [Trip.changes, Trip.changes, same.explicitChanges, same.isEmpty_rides, same.length_rides]

theorem products (same : SameWay a b) : b.products = a.products := by
  have lines : b.rides.map (fun r => r.line.product) = a.rides.map (fun r => r.line.product) :=
    same.map_rides _ fun _ => rfl
  have known := congrArg (List.filterMap fun product => product) lines
  rw [List.filterMap_map, List.filterMap_map] at known
  exact congrArg ProductSet.ofList known

theorem ridingTime (same : SameWay a b) : b.ridingTime = a.ridingTime := by
  have departures := same.map_rides (fun r => r.departure false) fun _ => rfl
  have arrivals := same.map_rides (fun r => r.arrival false) fun _ => rfl
  rw [ridingTime_eq, ridingTime_eq, departures, arrivals]

/-- Everything that `Keeps` lists follows from what no change touches. -/
theorem keeps (same : SameWay a b) : Keeps a b where
  id := same.id
  derivedId := same.derivedId
  uniqueId := same.uniqueIdBy
  changes := same.changes
  products := same.products
  ridingTime := same.ridingTime
  explicitId := same.explicitId
  origin := same.origin
  destination := same.destination
  created := same.created
  legCount := same.legCount
  courses := same.courses

end SameWay

/-- Details are no part of the way that a trip goes. -/
theorem sameWay_withDetails (t : Trip) (now : Stamp) (transfers : List Transfer) :
    SameWay t (t.withDetails now transfers) :=
  ⟨rfl, rfl, rfl, rfl, rfl, rfl⟩

/-- Repair changes own legs in time only. -/
theorem sameWay_repaired (t : Trip) : SameWay t t.repaired.1 :=
  ⟨rfl, rfl, rfl, rfl, rfl, Leg.map_course_repaired t.legs⟩

/-- A path is refused where there is no such leg, and only there. -/
theorem withLegPath_of_le {index : Nat} (outside : t.legs.length ≤ index) (points : List Point) :
    t.withLegPath index points = .error (.noSuchLeg index) :=
  if_neg (Nat.not_lt.2 outside)

/-- A leg that is there can be given a path, and the trip goes the same way. -/
theorem exists_withLegPath {index : Nat} (inside : index < t.legs.length) (points : List Point) :
    ∃ after, t.withLegPath index points = .ok after ∧ SameWay t after :=
  ⟨_, if_pos inside, rfl, rfl, rfl, rfl, rfl, Leg.map_course_modify points t.legs index⟩

/-! ## Ids that are kept -/

/-- A trip with those of its ids that were worked out before. -/
structure Memo where
  trip : Trip
  derivedId? : Option String
  uniqueId? : Option String

/-- What may be done to a trip or asked of it. -/
inductive Act where
  | askId
  | askUniqueId
  /-- Give one leg a path. -/
  | path (index : Nat) (points : List Point)
  | details (now : Stamp) (transfers : List Transfer)
  | repair
  /-- Take the details that a timetable has for the trip. -/
  | load (timetable : Timetable) (now : Stamp)

/-- What comes back of it. -/
inductive Reply where
  | id (text : String)
  | uniqueId (text : String)
  | done
  | refused (violation : Violation)

/-- A reply that gives no other ids than those of a trip. -/
def Reply.Gives (t : Trip) : Reply → Prop
  | id text => text = t.id
  | uniqueId text => text = t.uniqueId
  | done => True
  | refused _ => True

/-- Without rides the unique id is the id. -/
theorem uniqueId_of_isEmpty (none : t.rides.isEmpty = true) : t.uniqueId = t.id := if_pos none

namespace Memo

/-- A trip of which nothing was asked yet. -/
def fresh (t : Trip) : Memo := ⟨t, none, none⟩

/-- The id, worked out at the first time that it is needed. -/
def askId (m : Memo) : String × Memo :=
  match m.trip.explicitId, m.derivedId? with
  | some id, _ => (id, m)
  | none, some id => (id, m)
  | none, none => (m.trip.derivedId, { m with derivedId? := some m.trip.derivedId })

/-- The unique id, worked out at the first time that it is needed. -/
def askUniqueId (m : Memo) : String × Memo :=
  match m.uniqueId? with
  | some id => (id, m)
  | none =>
    if m.trip.rides.isEmpty then
      let (id, m) := m.askId
      (id, { m with uniqueId? := some id })
    else (m.trip.uniqueId, { m with uniqueId? := some m.trip.uniqueId })

/-- What an act gives back, and what there is afterwards. -/
def act (m : Memo) : Act → Reply × Memo
  | .askId =>
    let (id, m) := m.askId
    (.id id, m)
  | .askUniqueId =>
    let (id, m) := m.askUniqueId
    (.uniqueId id, m)
  | .path index points =>
    match m.trip.withLegPath index points with
    | .ok trip => (.done, { m with trip })
    | .error violation => (.refused violation, m)
  | .details now transfers => (.done, { m with trip := m.trip.withDetails now transfers })
  | .repair => (.done, { m with trip := m.trip.repaired.1 })
  | .load timetable now =>
    let (id, m) := m.askId
    (.done, { m with trip := m.trip.withDetails now ((timetable.details.lookup id).getD []) })

/-- What some acts give back, in order, and what there is afterwards. -/
def run (m : Memo) : List Act → List Reply × Memo
  | [] => ([], m)
  | a :: acts =>
    let (reply, m) := m.act a
    let (replies, m) := m.run acts
    (reply :: replies, m)

/-- What was kept is what would be worked out now. -/
structure Faithful (m : Memo) : Prop where
  derivedId : ∀ id ∈ m.derivedId?, id = m.trip.derivedId
  uniqueId : ∀ id ∈ m.uniqueId?, id = m.trip.uniqueId

/-- Nothing that was never asked can be out of date. -/
theorem faithful_fresh (t : Trip) : (fresh t).Faithful := ⟨nofun, nofun⟩

/-- Another trip that goes the same way may take the place of the trip. -/
theorem Faithful.withTrip {m : Memo} (h : m.Faithful) {after : Trip} (same : SameWay m.trip after) :
    Faithful { m with trip := after } where
  derivedId id mem := (h.derivedId id mem).trans same.derivedId.symm
  uniqueId id mem := (h.uniqueId id mem).trans (same.uniqueIdBy _).symm

variable {m : Memo}

theorem trip_askId (m : Memo) : m.askId.2.trip = m.trip := by
  unfold askId
  split <;> rfl

/-- Whether it was asked for before or not, the answer is the id of the trip. -/
theorem Faithful.askId_fst (h : m.Faithful) : m.askId.1 = m.trip.id := by
  unfold askId Trip.id
  split
  · rename_i id given
    rw [given, Option.getD_some]
  · rename_i id given kept
    rw [given, Option.getD_none]
    exact h.derivedId id kept
  · rename_i given kept
    rw [given, Option.getD_none]

/-- What is kept after a question for the id is the id. -/
theorem Faithful.askId (h : m.Faithful) : m.askId.2.Faithful := by
  unfold Memo.askId
  split
  · exact h
  · exact h
  · exact ⟨fun id mem => (Option.some.inj mem).symm, h.uniqueId⟩

theorem trip_askUniqueId (m : Memo) : m.askUniqueId.2.trip = m.trip := by
  unfold askUniqueId
  split
  · rfl
  · split
    · exact trip_askId m
    · rfl

/-- Whether it was asked for before or not, the answer is the unique id of the trip. -/
theorem Faithful.askUniqueId_fst (h : m.Faithful) : m.askUniqueId.1 = m.trip.uniqueId := by
  unfold askUniqueId
  split
  · rename_i id kept
    exact h.uniqueId id kept
  · split
    · rename_i none
      rw [uniqueId_of_isEmpty none]
      exact h.askId_fst
    · rfl

/-- What is kept after a question for the unique id is the id, or both ids. -/
theorem Faithful.askUniqueId (h : m.Faithful) : m.askUniqueId.2.Faithful := by
  unfold Memo.askUniqueId
  split
  · exact h
  · split
    · rename_i none
      refine ⟨h.askId.derivedId, fun id mem => ?_⟩
      rw [← Option.some.inj mem, h.askId_fst]
      show _ = m.askId.2.trip.uniqueId
      rw [trip_askId, uniqueId_of_isEmpty none]
    · exact ⟨h.derivedId, fun id mem => (Option.some.inj mem).symm⟩

/-- What an act leaves as it was, for each act. -/
theorem Faithful.act (h : m.Faithful) (a : Act) :
    (m.act a).2.Faithful ∧ SameWay m.trip (m.act a).2.trip ∧ (m.act a).1.Gives m.trip := by
  cases a with
  | askId =>
    refine ⟨h.askId, ?_, h.askId_fst⟩
    show SameWay m.trip m.askId.2.trip
    rw [trip_askId]
    exact .refl _
  | askUniqueId =>
    refine ⟨h.askUniqueId, ?_, h.askUniqueId_fst⟩
    show SameWay m.trip m.askUniqueId.2.trip
    rw [trip_askUniqueId]
    exact .refl _
  | path index points =>
    -- A path for a leg that is not there is refused, and nothing is changed.
    rcases Nat.lt_or_ge index m.trip.legs.length with inside | outside
    · obtain ⟨after, given, same⟩ := exists_withLegPath inside points
      simp only [Memo.act, given]
      exact ⟨h.withTrip same, same, trivial⟩
    · simp only [Memo.act, withLegPath_of_le outside]
      exact ⟨h, .refl _, trivial⟩
  | details now transfers =>
    exact ⟨h.withTrip (sameWay_withDetails _ _ _), sameWay_withDetails _ _ _, trivial⟩
  | repair => exact ⟨h.withTrip (sameWay_repaired _), sameWay_repaired _, trivial⟩
  | load timetable now =>
    -- To load details is to ask for the id first, by which they are looked up.
    have same : SameWay m.askId.2.trip (m.act (.load timetable now)).2.trip :=
      sameWay_withDetails _ _ _
    refine ⟨h.askId.withTrip same, ?_, trivial⟩
    rwa [trip_askId] at same

/-- What a run of acts leaves as it was. -/
theorem Faithful.run (h : m.Faithful) (acts : List Act) :
    (m.run acts).2.Faithful ∧ SameWay m.trip (m.run acts).2.trip ∧
      ∀ reply ∈ (m.run acts).1, reply.Gives m.trip := by
  induction acts generalizing m with
  | nil => exact ⟨h, .refl _, nofun⟩
  | cons a acts ih =>
    obtain ⟨faithful, same, gives⟩ := h.act a
    obtain ⟨faithful', same', gives'⟩ := ih faithful
    refine ⟨faithful', same.trans same', fun reply mem => ?_⟩
    rcases List.mem_cons.1 mem with rfl | later
    · exact gives
    · have there := gives' reply later
      cases reply with
      | id text => exact there.trans same.id
      | uniqueId text => exact there.trans (same.uniqueIdBy _)
      | done => trivial
      | refused violation => trivial

/-- An act that is refused leaves everything as it was. -/
theorem eq_of_refused {a : Act} {violation : Violation} (h : (m.act a).1 = .refused violation) :
    (m.act a).2 = m := by
  cases a with
  | path index points =>
    unfold act at h ⊢
    cases given : m.trip.withLegPath index points with
    | ok after =>
      simp only [given] at h
      cases h
    | error violation => simp only [given]
  | _ => cases h

/-- A trip that is changed and asked for its ids in any order, and as often as one likes. Its ids
stay what they were, as they are worked out from the legs that there are and also as they were kept,
and so do its changes, products and riding time, its ends, its time of creation and the courses of
its legs. A path for a leg that does not exist is refused; whatever is refused leaves everything as
it was; and the details of a timetable are those that it has under the id of the trip. -/
theorem run_keeps (m : Memo) (faithful : m.Faithful) (acts : List Act) :
    let after := (m.run acts).2
    Keeps m.trip after.trip ∧
      (∀ text, .id text ∈ (m.run acts).1 → text = m.trip.id) ∧
      (∀ text, .uniqueId text ∈ (m.run acts).1 → text = m.trip.uniqueId) ∧
      (∀ index points, after.trip.legs.length ≤ index →
        (after.act (.path index points)).1 = .refused (.noSuchLeg index)) ∧
      (∀ act violation, (after.act act).1 = .refused violation → (after.act act).2 = after) ∧
      ∀ timetable now,
        (after.act (.load timetable now)).2.trip = timetable.detailed now after.trip := by
  obtain ⟨faithful', same, gives⟩ := faithful.run acts
  refine ⟨same.keeps, fun text mem => gives _ mem, fun text mem => gives _ mem, ?_,
    fun act violation refused => eq_of_refused refused, ?_⟩
  · intro index points outside
    simp only [act, withLegPath_of_le outside]
  · intro timetable now
    simp only [act, trip_askId, faithful'.askId_fst]
    rfl

/-! ## A bus and a walk

The walk starts three minutes before the bus arrives. -/

def market : Location := .stationOf "market" "Market"

def museum : Location := .stationOf "museum" "Museum"

/-- The bus from the market, and the walk behind it. -/
def outing : Trip :=
  .ofLegs ⟨0, 0⟩ none market museum
    [.ride (.ofStops (.plain none none (some .bus) (some "7")) none
      { Stop.bare market with plannedDeparture := some ⟨0, .network⟩ }
      { Stop.bare museum with plannedArrival := some ⟨600000, .network⟩ } rfl rfl),
    .own ⟨.walk, museum, ⟨420000, .network⟩, museum, ⟨480000, .network⟩, 80, none⟩]
    (List.cons_ne_nil _ _)

/-- On the outing, a repair moves the walk to the end of the ride and one path is refused, and both
ids stay. -/
theorem run_keeps_outing :
    (fresh outing).Faithful ∧
      let m := ((fresh outing).run [.askUniqueId, .path 1 [], .repair, .path 2 [], .askId]).2
      m.trip.departure = outing.departure ∧ m.trip.arrival ≠ outing.arrival ∧
        Keeps outing m.trip := by
  have faithful := faithful_fresh outing
  obtain ⟨keeps, -⟩ := run_keeps (fresh outing) faithful
    [.askUniqueId, .path 1 [], .repair, .path 2 [], .askId]
  exact ⟨faithful, rfl, by decide, keeps⟩

end Memo

end Trip

end Itinerary
