import Itinerary.Proofs.Order.Listing
import Itinerary.Proofs.Place.Likeness
import Itinerary.Proofs.Time.Reach
import Itinerary.Proofs.Timetable.Resolution
import Itinerary.Timetable.Backend
import Mathlib.Order.WithBot

/-!
# What the boards of a stop show

A question for departures names a stop by its id. What comes back is settled by three lists, each
said here without the way in which it is gone through:

* the places that are wanted, the stop first and equivalent places behind it in the order of the
  timetable (`Timetable.wanted`), where a place is passed over if an earlier one is recognised by
  the same text, and left out if nothing is stored under its id;
* the departures of each place, those that are in time and in a stable order by their times
  (`Departure.rank`), cut to the limit behind that;
* the services among the departures that are left, the first of each `Service.key`.

`Timetable.Shows` is the second and the third list, and only one board of a place shows them
(`Timetable.board?_eq_some_iff`). So `Timetable.departures_shown` leaves the answer no freedom.

An earlier place stands in the way of a later one even if it has no board of its own. That is seen
where a place without an id stands at the coordinate that a later id is written like.
-/

namespace Itinerary

open Time (Moment Stamp)

/-! ## Departures and services -/

namespace Departure

variable {d : Departure} {time : Option Moment}

/-- Where a departure stands among others: at its time, and in front of them without one. -/
def rank (d : Departure) : WithBot Int :=
  match d.time with
  | some leaves => leaves.ms
  | none => ⊥

/-- Departures are sorted by their times, and those at one time stay as they are given. -/
theorem stablySorted_sorted (departures : List Departure) :
    StablySorted rank departures (sorted departures) := by
  refine stablySorted_mergeSort (fun a b => ?_) departures
  unfold upTo rank
  cases a.time with
  | none => exact iff_of_true rfl bot_le
  | some x =>
    cases b.time with
    | none => exact iff_of_false nofun (WithBot.not_coe_le_bot _)
    | some y =>
      simp only [Bool.not_eq_true', Moment.before_eq_false_iff, WithBot.coe_le_coe]

/-- A departure that does not leave before a time, as far as both are known. -/
def InTime (time : Option Moment) (d : Departure) : Prop :=
  ∀ after ∈ time, ∀ leaves ∈ d.time, after.ms ≤ leaves.ms

/-- A departure is dropped only if it is known to leave before the time that is asked for. -/
theorem notBefore_iff : d.notBefore time = true ↔ d.InTime time := by
  unfold notBefore InTime
  cases time with
  | none => exact iff_of_true rfl nofun
  | some after =>
    cases d.time with
    | none => exact iff_of_true rfl fun _ _ => nofun
    | some leaves =>
      simp only [Bool.not_eq_true', Moment.before_eq_false_iff, Option.mem_def,
        Option.some.injEq, forall_eq']

instance (time : Option Moment) (d : Departure) : Decidable (d.InTime time) :=
  decidable_of_iff _ notBefore_iff

/-- The line of a departure and where it is headed. -/
def service (d : Departure) : Service := ⟨d.line, d.destination⟩

end Departure

namespace Service

/-- What services are told apart by: network, product and label of the line, not its id, and where
it is headed. -/
def key (s : Service) : (Option String × Option Product × Option String) × Option Location :=
  ((s.line.network, s.line.product, s.line.label), s.destination)

/-- Services are compared by line and direction, and lines without their ids. -/
theorem same_iff (a b : Service) : a.same b = true ↔ a.key = b.key := by
  simp only [same, Line.same, key, Bool.and_eq_true, decide_eq_true_eq, Prod.mk.injEq, and_assoc]

/-- Of several departures for one service, the board has the service once, in the place of the
first. -/
theorem distinct_eq_firstOnes (departures : List Departure) :
    distinct departures = firstOnes key [] (departures.map Departure.service) := by
  have inserted := foldl_insert same_iff [] (departures.map Departure.service)
  rw [List.foldl_map] at inserted
  exact inserted

end Service

/-- Of several places with one identity, the first one stays. -/
theorem Location.distinct_eq_firstOnes (locations : List Location) :
    distinct locations = firstOnes identity [] locations := by
  have decides (a b : Location) :
      decide (a.identity = b.identity) = true ↔ a.identity = b.identity := decide_eq_true_iff
  exact foldl_insert decides [] locations

/-! ## Boards -/

namespace Timetable

variable {t : Timetable} {time : Option Moment} {limit : Nat} {l stop : Location}
  {board : StationBoard} {equivalent : Bool}

/-- The departures under the id of a place. -/
def departuresAt (t : Timetable) (l : Location) : Option (List Departure) :=
  l.id.bind fun id => t.departures.lookup id

/-- A board of a place under a time and a limit: of the departures under its id those that are in
time, by their times, up to the limit, and their services without repetition. -/
structure Shows (t : Timetable) (time : Option Moment) (limit : Nat) (l : Location)
    (board : StationBoard) : Prop where
  location : board.location = l
  departures : ∃ all ∈ t.departuresAt l, ∃ inOrder,
    StablySorted Departure.rank (all.filter (Departure.InTime time ·)) inOrder ∧
      board.departures = inOrder.take limit
  services : board.services =
    some (firstOnes Service.key [] (board.departures.map Departure.service))

/-- The places of which boards are wanted: the stop and, on demand, the places that share its name
and town but not its id. -/
def wanted (t : Timetable) (stop : Location) (equivalent : Bool) : List Location :=
  stop :: if equivalent then
    t.locations.filter fun l => ¬ l.SharesId stop ∧ l.SharesName stop
  else []

/-- A board, in terms of what is known of the departures: they are sorted before they are cut. -/
theorem board?_eq_map (t : Timetable) (time : Option Moment) (limit : Nat) (l : Location) :
    t.board? time limit l = (t.departuresAt l).map fun all =>
      let listed := (Departure.sorted (all.filter (·.notBefore time))).take limit
      ⟨l, listed, some (Service.distinct listed)⟩ := by
  unfold board? departuresAt
  cases l.id with
  | none => rfl
  | some id =>
    show (t.departures.lookup id >>= _) = (t.departures.lookup id).map _
    cases t.departures.lookup id with
    | none => rfl
    | some all => rfl

/-- The filter of a board, as the condition that it stands for. -/
theorem filter_notBefore (time : Option Moment) (all : List Departure) :
    all.filter (·.notBefore time) = all.filter (Departure.InTime time ·) :=
  List.filter_congr fun d _ => by
    rw [Bool.eq_iff_iff, Departure.notBefore_iff, decide_eq_true_iff]

/-- The board of a place shows what it is to show, and nothing else does. -/
theorem board?_eq_some_iff : t.board? time limit l = some board ↔ t.Shows time limit l board := by
  rw [board?_eq_map]
  constructor
  · intro found
    obtain ⟨all, given, rfl⟩ := Option.map_eq_some_iff.1 found
    refine ⟨rfl, ⟨all, given, _, ?_, rfl⟩, congrArg some (Service.distinct_eq_firstOnes _)⟩
    rw [← filter_notBefore]
    exact Departure.stablySorted_sorted _
  · rintro ⟨rfl, ⟨all, given, inOrder, sorted, listed⟩, services⟩
    have ordered : Departure.sorted (all.filter (·.notBefore time)) = inOrder := by
      rw [filter_notBefore]
      exact (Departure.stablySorted_sorted _).unique sorted
    rw [given, Option.map_some]
    simp only [ordered, ← listed, Service.distinct_eq_firstOnes, ← services]

/-- What is on a board is known for the stop and leaves in time. -/
theorem Shows.of_mem (shows : t.Shows time limit l board) {d : Departure}
    (mem : d ∈ board.departures) : ∃ all ∈ t.departuresAt l, d ∈ all ∧ d.InTime time := by
  obtain ⟨all, given, inOrder, sorted, listed⟩ := shows.departures
  rw [listed] at mem
  obtain ⟨mem, inTime⟩ := List.mem_filter.1 (sorted.perm.subset (List.mem_of_mem_take mem))
  exact ⟨all, given, mem, of_decide_eq_true inTime⟩

/-- Where the limit has room for all departures, a board shows all that are in time. -/
theorem Shows.mem_of_length_le (shows : t.Shows time limit l board) {all : List Departure}
    (given : t.departuresAt l = some all) (room : all.length ≤ limit) {d : Departure}
    (mem : d ∈ all) (inTime : d.InTime time) : d ∈ board.departures := by
  obtain ⟨all', given', inOrder, sorted, listed⟩ := shows.departures
  obtain rfl := Option.some.inj (given.symm.trans given')
  have fits : inOrder.length ≤ limit := calc
    inOrder.length = (all.filter (Departure.InTime time ·)).length := sorted.perm.length_eq
    _ ≤ all.length := List.length_filter_le _ _
    _ ≤ limit := room
  rw [listed, List.take_of_length_le fits]
  exact sorted.perm.mem_iff.2 (List.mem_filter.2 ⟨mem, decide_eq_true inTime⟩)

/-- A place has a board just if its departures are known, be there any or none. -/
theorem isSome_board? (t : Timetable) (time : Option Moment) (limit : Nat) (l : Location) :
    (t.departuresAt l).isSome = (t.board? time limit l).isSome := by
  rw [board?_eq_map, Option.isSome_map]

/-- The stop itself comes first, then its equivalents: places that share its name, but not its id.
-/
theorem wanted_eq (t : Timetable) (stop : Location) (equivalent : Bool) :
    (stop :: if equivalent then t.equivalents stop else []) = t.wanted stop equivalent := by
  have alike : t.equivalents stop =
      t.locations.filter fun l => ¬ l.SharesId stop ∧ l.SharesName stop :=
    List.filter_congr fun l _ => by
      rw [Bool.eq_iff_iff, Bool.and_eq_true, Bool.not_eq_true', ← Bool.not_eq_true,
        Location.sameId_iff, Location.sameNameAndPlace_iff, decide_eq_true_iff]
  rw [wanted, alike]

/-- Only places of the timetable are wanted for a stop of the timetable. -/
theorem mem_locations_of_mem_wanted (known : stop ∈ t.locations)
    (mem : l ∈ t.wanted stop equivalent) : l ∈ t.locations := by
  rcases List.mem_cons.1 mem with rfl | mem
  · exact known
  · split at mem
    · exact (List.mem_filter.1 mem).1
    · exact nomatch mem

/-- The boards stand in the order of the places that they are shown for, and each names its place.
-/
theorem map_location_of_shows {places : List Location} {boards : List StationBoard}
    (shown : List.Forall₂ (t.Shows time limit) places boards) :
    boards.map StationBoard.location = places := by
  have alike : places.map id = boards.map StationBoard.location :=
    map_eq_of_forall₂ (fun _ _ shows => shows.location.symm) shown
  rw [← alike, List.map_id]

/-- The boards of an answer: one for each place that is wanted, in order and the first of each
identity, as long as the departures of the place are known. There is no other list of boards with
that property. -/
theorem boards_eq_iff {boards : List StationBoard} :
    (Location.distinct (stop :: if equivalent then t.equivalents stop else [])).filterMap
        (t.board? time limit) = boards ↔
      List.Forall₂ (t.Shows time limit)
        ((firstOnes Location.identity [] (t.wanted stop equivalent)).filter
          fun l => (t.departuresAt l).isSome) boards := by
  rw [wanted_eq, Location.distinct_eq_firstOnes]
  exact filterMap_eq_iff_forall₂ (t.isSome_board? time limit) fun _ _ => board?_eq_some_iff

/-- Every board of an answer is shown for a place of the timetable. -/
theorem exists_shows_of_mem {now : Stamp} {stopId : String}
    (mem : board ∈ (t.departuresFrom now stopId time limit equivalent).boards) :
    ∃ l ∈ t.locations, t.Shows time limit l board := by
  unfold departuresFrom at mem
  cases first : t.location? stopId with
  | none =>
    rw [first] at mem
    exact nomatch mem
  | some stop =>
    rw [first] at mem
    obtain ⟨l, asked, made⟩ := List.mem_filterMap.1 mem
    refine ⟨l, ?_, board?_eq_some_iff.1 made⟩
    rw [wanted_eq, Location.distinct_eq_firstOnes] at asked
    exact mem_locations_of_mem_wanted (List.mem_of_find?_eq_some first)
      (firstOnes_sublist.subset asked)

/-- The stop itself has a board if departures are stored under its id. -/
theorem exists_board_of_stop {now : Stamp} {stopId : String}
    (first : t.location? stopId = some stop) (given : (t.departuresAt stop).isSome = true) :
    ∃ board ∈ (t.departuresFrom now stopId time limit equivalent).boards,
      t.Shows time limit stop board := by
  rw [isSome_board? t time limit, Option.isSome_iff_exists] at given
  obtain ⟨board, made⟩ := given
  refine ⟨board, ?_, board?_eq_some_iff.1 made⟩
  unfold departuresFrom
  rw [first]
  refine List.mem_filterMap.2 ⟨stop, ?_, made⟩
  rw [wanted_eq, Location.distinct_eq_firstOnes, wanted, firstOnes_cons,
    if_neg List.not_mem_nil]
  exact List.mem_cons_self

/-- A timetable does not know the stop just if no place has its id. Otherwise it answers with the
boards of the places that are wanted, of each text the first place and of these the ones with
departures of their own, in this order; these boards and no others. No two of them are of places
that are recognised by the same text. -/
theorem departures_shown (t : Timetable) (now : Stamp) (stopId : String) (time : Option Moment)
    (limit : Nat) (equivalent : Bool) :
    ∃ answer, (t.backend now).departures stopId time limit equivalent = .ok answer ∧
      (answer.status = .invalidStation ↔ ∀ l ∈ t.locations, l.id ≠ some stopId) ∧
      (∀ stop, t.locations.find? (·.id = some stopId) = some stop →
        answer.status = .ok ∧ ∀ boards, answer.boards = boards ↔
          List.Forall₂ (t.Shows time limit)
            ((firstOnes Location.identity [] (t.wanted stop equivalent)).filter
              fun l => (t.departuresAt l).isSome) boards) ∧
      (answer.boards.map (·.location.identity)).Nodup := by
  refine ⟨t.departuresFrom now stopId time limit equivalent, rfl, ?_⟩
  cases first : t.location? stopId with
  | none =>
    rw [departuresFrom, first]
    refine ⟨iff_of_true rfl (find?_id_eq_none_iff.1 first), fun stop found => ?_, List.nodup_nil⟩
    exact nomatch first.symm.trans found
  | some stop =>
    rw [departuresFrom, first]
    have mem : stop ∈ t.locations := List.mem_of_find?_eq_some first
    refine ⟨iff_of_false nofun fun unknown => unknown stop mem (id_of_find?_id first), ?_, ?_⟩
    · intro stop' found
      obtain rfl := Option.some.inj (first.symm.trans found)
      exact ⟨rfl, fun _ => boards_eq_iff⟩
    · show (List.map (Location.identity ∘ StationBoard.location) _).Nodup
      rw [← List.map_map, map_location_of_shows (boards_eq_iff.1 rfl)]
      exact (nodup_map_firstOnes Location.identity [] _).sublist (List.filter_sublist.map _)

end Timetable

end Itinerary
