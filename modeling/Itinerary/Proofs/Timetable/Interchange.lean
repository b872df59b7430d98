import Itinerary.Proofs.Place.Identity
import Itinerary.Proofs.Timetable.Board

/-!
# Stops that stand in for each other

A stop is asked for by its id, and on demand the boards of equivalent stops come with its own: those
of the places with its name in its town. Sharing a name is symmetric and transitive, but a place
without a name does not share it, not even with itself. Together with being the same place it is an
equivalence (`Location.Interchanges`), and the places that are wanted for a stop are its class
(`Timetable.mem_wanted_iff`). So each stop of an answer brings the same boards again when it is
asked for itself (`Timetable.departures_interchangeable`).

Two things are needed for that. Places that are recognised by the same text have to be the same
place, or else one of them is passed over for the other, and which one depends on the stop that is
asked for. And no id may be empty: a place with an empty id may have a board, but it shares its id
with no place, and so another place may answer for it.
-/

namespace Itinerary

open Time (Moment Stamp)

/-! ## Equivalent places -/

namespace Location

variable {a b c : Location}

/-- The same place, or two places with the same name in the same town. -/
def Interchanges (a b : Location) : Prop := a = b ∨ a.SharesName b

theorem Interchanges.symm (h : a.Interchanges b) : b.Interchanges a := by
  rcases h with rfl | same
  · exact .inl rfl
  · exact .inr same.symm

/-- A chain of equal names keeps to one name and one town. -/
theorem Interchanges.trans (first : a.Interchanges b) (second : b.Interchanges c) :
    a.Interchanges c := by
  rcases first with rfl | left
  · exact second
  · rcases second with rfl | right
    · exact .inr left
    · exact .inr (left.trans right)

/-- An id that is shared is the identity of both places. -/
theorem SharesId.identity_eq (same : a.SharesId b) : a.identity = b.identity := by
  obtain ⟨id, proper, left, right⟩ := same
  exact (SamePlace.byId (properId_eq_some_iff.2 ⟨proper, left⟩)
    (properId_eq_some_iff.2 ⟨proper, right⟩)).identity_eq

end Location

namespace Timetable

variable {t : Timetable} {now other : Stamp} {stopId : String} {time : Option Moment} {limit : Nat}
  {equivalent : Bool} {l stop : Location} {board board' : StationBoard}

/-- Places of the timetable that are recognised by the same text are the same place. -/
def IdentitiesTell (t : Timetable) : Prop :=
  ∀ a ∈ t.locations, ∀ b ∈ t.locations, a.identity = b.identity → a = b

/-- It is enough that no two places of the timetable have one identity. -/
theorem identitiesTell_of_nodup (apart : (t.locations.map Location.identity).Nodup) :
    t.IdentitiesTell := fun _ ha _ hb => List.inj_on_of_nodup_map apart ha hb

/-- Of all places, a stop wants those that it interchanges with. -/
theorem mem_wanted_iff (tells : t.IdentitiesTell) (known : stop ∈ t.locations) :
    l ∈ t.wanted stop true ↔ l ∈ t.locations ∧ l.Interchanges stop := by
  rw [wanted, if_pos rfl, List.mem_cons, List.mem_filter, decide_eq_true_iff]
  constructor
  · rintro (rfl | ⟨mem, -, same⟩)
    · exact ⟨known, .inl rfl⟩
    · exact ⟨mem, .inr same⟩
  · rintro ⟨mem, rfl | same⟩
    · exact .inl rfl
    · by_cases own : l.SharesId stop
      · exact .inl (tells l mem stop known own.identity_eq)
      · exact .inr ⟨mem, own, same⟩

/-! ## The boards of an answer -/

/-- Only one board is shown for a place. -/
theorem Shows.unique (first : t.Shows time limit l board) (second : t.Shows time limit l board') :
    board = board' :=
  Option.some.inj ((board?_eq_some_iff.2 first).symm.trans (board?_eq_some_iff.2 second))

/-- Where places are told apart, all places that are wanted have their boards in the answer. -/
theorem mem_boards_iff (tells : t.IdentitiesTell) (first : t.location? stopId = some stop) :
    board ∈ (t.departuresFrom now stopId time limit equivalent).boards ↔
      ∃ l ∈ t.wanted stop equivalent, t.Shows time limit l board := by
  have known : stop ∈ t.locations := List.mem_of_find?_eq_some first
  have apart : ∀ a ∈ t.wanted stop equivalent, ∀ b ∈ t.wanted stop equivalent,
      a.identity = b.identity → a = b := fun a ha b hb =>
    tells a (mem_locations_of_mem_wanted known ha) b (mem_locations_of_mem_wanted known hb)
  unfold departuresFrom
  simp only [first, wanted_eq, Location.distinct_eq_firstOnes, List.mem_filterMap,
    mem_firstOnes_iff apart, board?_eq_some_iff]

/-- No board is in an answer twice. -/
theorem nodup_boards : (t.departuresFrom now stopId time limit equivalent).boards.Nodup := by
  unfold departuresFrom
  split
  · exact List.nodup_nil
  · apply List.Nodup.of_map StationBoard.location
    rw [map_location_of_shows (boards_eq_iff.1 rfl)]
    exact (nodup_map_firstOnes Location.identity [] _).of_map.filter _

/-- Where places are told apart, a place with an id that is not empty is found by it. -/
theorem location?_of_id (tells : t.IdentitiesTell) (mem : l ∈ t.locations) {id : String}
    (proper : id ≠ "") (own : l.id = some id) : t.location? id = some l := by
  cases first : t.location? id with
  | none => exact absurd own (find?_id_eq_none_iff.1 first l mem)
  | some found =>
    have same : found.SharesId l := ⟨id, proper, id_of_find?_id first, own⟩
    exact congrArg some (tells found (List.mem_of_find?_eq_some first) l mem same.identity_eq)

/-- Only a place with an id has a board, since departures are known under ids. -/
theorem Shows.exists_id (shows : t.Shows time limit l board) : ∃ id, l.id = some id := by
  obtain ⟨all, given, -⟩ := shows.departures
  obtain ⟨id, own, -⟩ := Option.bind_eq_some_iff.1 given
  exact ⟨id, own⟩

/-- Stops that interchange have the same boards in their answers. -/
theorem perm_boards_of_interchanges (tells : t.IdentitiesTell) {otherId : String}
    (first : t.location? stopId = some stop) (second : t.location? otherId = some l)
    (alike : l.Interchanges stop) :
    (t.departuresFrom other otherId time limit true).boards.Perm
      (t.departuresFrom now stopId time limit true).boards := by
  have known : stop ∈ t.locations := List.mem_of_find?_eq_some first
  have known' : l ∈ t.locations := List.mem_of_find?_eq_some second
  have sameClass (m : Location) : m ∈ t.wanted l true ↔ m ∈ t.wanted stop true := by
    rw [mem_wanted_iff tells known', mem_wanted_iff tells known]
    exact and_congr_right fun _ =>
      ⟨fun left => left.trans alike, fun right => right.trans alike.symm⟩
  refine (List.perm_ext_iff_of_nodup nodup_boards nodup_boards).2 fun board => ?_
  simp only [mem_boards_iff tells second, mem_boards_iff tells first, sameClass]

/-- Where places are told apart and no id is empty, each station in an answer with equivalent stops
has an id, the timetable knows it, and for this id it answers with the same stations, each with the
same departures and services; only their order may be another one. -/
theorem departures_interchangeable (t : Timetable) (tells : t.IdentitiesTell)
    (proper : ∀ l ∈ t.locations, l.id ≠ some "") (now other : Stamp) (stopId : String)
    (time : Option Moment) (limit : Nat) :
    ∃ answer, (t.backend now).departures stopId time limit true = .ok answer ∧
      ∀ board ∈ answer.boards, ∃ id, board.location.id = some id ∧
        ∃ again, (t.backend other).departures id time limit true = .ok again ∧
          again.status = .ok ∧ again.boards.Perm answer.boards := by
  refine ⟨t.departuresFrom now stopId time limit true, rfl, ?_⟩
  intro board listed
  cases first : t.location? stopId with
  | none =>
    rw [departuresFrom, first] at listed
    exact absurd listed List.not_mem_nil
  | some stop =>
    obtain ⟨l, asked, shows⟩ := (mem_boards_iff tells first).1 listed
    obtain ⟨mem, alike⟩ := (mem_wanted_iff tells (List.mem_of_find?_eq_some first)).1 asked
    obtain ⟨id, own⟩ := shows.exists_id
    have named : id ≠ "" := by
      rintro rfl
      exact proper l mem own
    -- Asked for by its id, the place is found again, and its class is that of the first stop.
    have second : t.location? id = some l := location?_of_id tells mem named own
    refine ⟨id, ?_, t.departuresFrom other id time limit true, rfl, ?_, ?_⟩
    · rw [shows.location, own]
    · rw [departuresFrom, second]
    · exact perm_boards_of_interchanges tells first second alike

/-! ## A market place

Two stops have the name of the market. A third place with this name is a bare coordinate, and a
fourth stop has no name at all. -/

def marketStop (id : String) : Location :=
  { Location.stationOf id "Market" with place := some "Oldtown" }

def marketSquare : Location :=
  { Location.ofName .poi "Market" with
    coord := some ⟨52500000, 13400000⟩
    place := some "Oldtown" }

def nightStop : Location := .ofId .station "depot"

def marketBus (label : String) (leaves : Int64) : Departure :=
  ⟨some ⟨leaves, .network⟩, none, .plain none none (some .bus) (some label), none, none, none, none,
    none⟩

def market : Timetable where
  network := ⟨"OLDTOWN", by decide⟩
  locations := [marketStop "north", nightStop, marketSquare, marketStop "south"]
  departures := [("depot", [marketBus "N" 0]), ("north", [marketBus "1" 60000]),
    ("south", [marketBus "2" 0, marketBus "3" 120000])]
  pages := []
  initialPage := 0
  details := []

/-- Asked for either of its stops, the market has the boards of both, the one that is asked for in
front. -/
theorem departures_interchangeable_market :
    market.IdentitiesTell ∧ (∀ l ∈ market.locations, l.id ≠ some "") ∧
      ∃ north south,
        (market.backend ⟨0, 0⟩).departures "north" none 10 true = .ok north ∧
          (market.backend ⟨1, 0⟩).departures "south" none 10 true = .ok south ∧
          north.boards.map StationBoard.location = [marketStop "north", marketStop "south"] ∧
          south.boards.map StationBoard.location = [marketStop "south", marketStop "north"] ∧
          south.boards.Perm north.boards := by
  have tells : market.IdentitiesTell := identitiesTell_of_nodup (by decide)
  have proper : ∀ l ∈ market.locations, l.id ≠ some "" := by decide
  have northward : (market.departuresFrom ⟨0, 0⟩ "north" none 10 true).boards.map
      StationBoard.location = [marketStop "north", marketStop "south"] :=
    (map_location_of_shows (boards_eq_iff.1 rfl)).trans (by decide)
  have southward : (market.departuresFrom ⟨1, 0⟩ "south" none 10 true).boards.map
      StationBoard.location = [marketStop "south", marketStop "north"] :=
    (map_location_of_shows (boards_eq_iff.1 rfl)).trans (by decide)
  obtain ⟨north, given, again⟩ :=
    departures_interchangeable market tells proper ⟨0, 0⟩ ⟨1, 0⟩ "north" none 10
  obtain rfl := Except.ok.inj given
  have listed : marketStop "south" ∈
      (market.departuresFrom ⟨0, 0⟩ "north" none 10 true).boards.map StationBoard.location := by
    rw [northward]
    exact List.mem_cons_of_mem _ List.mem_cons_self
  obtain ⟨board, mem, located⟩ := List.mem_map.1 listed
  obtain ⟨id, own, south, given', -, alike⟩ := again board mem
  obtain rfl : "south" = id := by
    rw [located] at own
    exact Option.some.inj own
  obtain rfl := Except.ok.inj given'
  exact ⟨tells, proper, _, _, rfl, rfl, northward, southward, alike⟩

end Timetable

end Itinerary
