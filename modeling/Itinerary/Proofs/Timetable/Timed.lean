import Itinerary.Proofs.Json.Printed
import Itinerary.Proofs.Timetable.Board

/-!
# Departures without a time

A departure is built from the times that are known of it, and it is refused if there are none
(`Departure.build_cases`). A stored departure is not built, it is read, and both of its times may be
left out of the document. No board drops such a departure: nothing says that it leaves too early,
and it is put in front of the others.

So a board keeps to a time as far as the times of its departures are known. That they are known is
for the timetable to see to, or it is seen to by nobody: every listed departure has a time just if
every departure under the id of a place has one (`Timetable.departures_timely_iff`).
-/

namespace Itinerary

open Time (Moment Stamp)

namespace Departure

variable {d : Departure} {time : Moment}

/-- A departure is built just if it has a time. -/
theorem build_cases (d : Departure) :
    (∃ leaves, d.time = some leaves ∧
        build d.planned d.predicted d.line d.destination =
          .ok ⟨d.planned, d.predicted, d.line, none, d.destination, none, none, none⟩) ∨
      (d.time = none ∧
        build d.planned d.predicted d.line d.destination =
          .error (.missingTime "departure time")) := by
  unfold time build
  cases d.predicted with
  | some predicted =>
    refine .inl ⟨predicted, rfl, if_neg ?_⟩
    rw [Option.isNone_some, Bool.and_false]
    exact Bool.false_ne_true
  | none =>
    cases d.planned with
    | some planned => exact .inl ⟨planned, rfl, rfl⟩
    | none => exact .inr ⟨rfl, rfl⟩

/-- A departure that can be built and does not leave before a time. -/
structure Timely (time : Moment) (d : Departure) : Prop where
  built : ∃ built, build d.planned d.predicted d.line d.destination = .ok built
  leaves : ∃ leaves, d.time = some leaves ∧ time.ms ≤ leaves.ms

/-- A departure is timely if it has a time and is not known to leave earlier: a time is all that
building one takes. -/
theorem timely_iff : d.Timely time ↔ d.time ≠ none ∧ d.InTime (some time) := by
  constructor
  · rintro ⟨-, leaves, known, ordered⟩
    refine ⟨known ▸ nofun, ?_⟩
    rintro _ ⟨⟩ leaves' known'
    obtain rfl := Option.some.inj (known.symm.trans known')
    exact ordered
  · rintro ⟨timed, inTime⟩
    obtain ⟨leaves, known, built⟩ | ⟨unknown, -⟩ := d.build_cases
    · exact ⟨⟨_, built⟩, leaves, known, inTime time rfl leaves known⟩
    · exact absurd unknown timed

end Departure

namespace Timetable

variable {t : Timetable}

/-- All departures under the ids of places have a time. -/
def Timed (t : Timetable) : Prop :=
  ∀ l ∈ t.locations, ∀ all ∈ t.departuresAt l, ∀ d ∈ all, d.time ≠ none

/-- A departure without a time is listed whenever there is room for all departures of the stop. -/
theorem exists_listed_of_time_eq_none (now : Stamp) (time : Moment) {l : Location}
    (mem : l ∈ t.locations) {all : List Departure} (given : t.departuresAt l = some all)
    {d : Departure} (stored : d ∈ all) (untimed : d.time = none) :
    ∃ stopId, ∃ board ∈ (t.departuresFrom now stopId (some time) all.length false).boards,
      d ∈ board.departures := by
  obtain ⟨stopId, own, -⟩ := Option.bind_eq_some_iff.1 given
  cases first : t.location? stopId with
  | none => exact absurd own (find?_id_eq_none_iff.1 first l mem)
  | some stop =>
    have given' : t.departuresAt stop = some all := by
      rw [← given, departuresAt, departuresAt, id_of_find?_id first, own]
    obtain ⟨board, listed, shows⟩ := exists_board_of_stop first (given' ▸ rfl)
    have inTime : d.InTime (some time) := fun _ _ leaves known =>
      nomatch untimed.symm.trans known
    exact ⟨stopId, board, listed, shows.mem_of_length_le given' le_rfl stored inTime⟩

/-- Under a time, boards list departures that do not leave before it as far as it is known when they
leave. That all of them have a time, so that each is in time and could be built, is the case just if
all departures under the ids of places have one. -/
theorem departures_timely_iff (t : Timetable) (now : Stamp) (time : Moment) :
    (∀ stopId limit equivalent, ∃ answer,
        (t.backend now).departures stopId (some time) limit equivalent = .ok answer ∧
          ∀ board ∈ answer.boards, ∀ d ∈ board.departures, ∀ leaves ∈ d.time,
            time.ms ≤ leaves.ms) ∧
      ((∀ stopId limit equivalent answer,
          (t.backend now).departures stopId (some time) limit equivalent = .ok answer →
            ∀ board ∈ answer.boards, ∀ d ∈ board.departures, d.Timely time) ↔ t.Timed) := by
  constructor
  · intro stopId limit equivalent
    refine ⟨t.departuresFrom now stopId (some time) limit equivalent, rfl, ?_⟩
    intro board listed d mem
    obtain ⟨l, -, shows⟩ := exists_shows_of_mem listed
    obtain ⟨all, -, -, inTime⟩ := shows.of_mem mem
    exact inTime time rfl
  · constructor
    · intro timely l mem all given d stored untimed
      obtain ⟨stopId, board, listed, shown⟩ :=
        exists_listed_of_time_eq_none now time mem given stored untimed
      have timely := timely stopId all.length false _ rfl board listed d shown
      exact (Departure.timely_iff.1 timely).1 untimed
    · rintro timed stopId limit equivalent _ ⟨⟩ board listed d mem
      obtain ⟨l, known, shows⟩ := exists_shows_of_mem listed
      obtain ⟨all, given, stored, inTime⟩ := shows.of_mem mem
      exact Departure.timely_iff.2 ⟨timed l known all given d stored, inTime⟩

/-- A file in which a timetable is written is loaded. -/
theorem load_of_ofText {path text : String} (written : ofText text = .ok t) :
    load path (some text.toUTF8) = .ok t := by
  simp only [load, Text.fromUTF8?_toUTF8, written, Except.mapError]

/-! ## A night bus

The document of a timetable states no time for its only departure. -/

def nightDocument : Json :=
  .obj [("network", .str "NIGHT"),
    ("locations", .arr [.obj [("type", .str "STATION"), ("id", .str "harbour")]]),
    ("departures", .obj [("harbour", .arr [.obj [("line", .obj [("label", .str "N1")])]])])]

def harbour : Location := .ofId .station "harbour"

def nightBus : Departure :=
  ⟨none, none, .plain none none none (some "N1"), none, none, none, none, none⟩

def night : Timetable where
  network := ⟨"NIGHT", by decide⟩
  locations := [harbour]
  departures := [("harbour", [nightBus])]
  pages := []
  initialPage := 0
  details := []

/-- The document is written without a number beyond every float and not nested too deep. -/
theorem plain_nightDocument : nightDocument.Plain Json.Source.depthLimit := by
  simp only [nightDocument, Json.Plain, Json.FieldsPlain, Json.ItemsPlain, Json.Source.depthLimit,
    and_self]

/-- The document is loaded from its bytes. -/
theorem load_nightDocument :
    load "night.json" (some nightDocument.text.toUTF8) = .ok night := by
  refine load_of_ofText ?_
  rw [ofText, Json.scan_text plain_nightDocument]
  rfl

/-- The document is read, and a departure is on the board of the harbour that cannot be built. -/
theorem departures_nightDocument :
    ∃ t answer, load "night.json" (some nightDocument.text.toUTF8) = .ok t ∧
      (t.backend ⟨0, 0⟩).departures "harbour" (some ⟨3600000, .network⟩) 10 false = .ok answer ∧
      ∃ board ∈ answer.boards, ∃ d ∈ board.departures, d.time = none ∧
        Departure.build d.planned d.predicted d.line d.destination =
          .error (.missingTime "departure time") := by
  have first : night.location? "harbour" = some harbour := rfl
  have given : night.departuresAt harbour = some [nightBus] := rfl
  obtain ⟨board, listed, shows⟩ : ∃ board ∈ (night.departuresFrom ⟨0, 0⟩ "harbour"
      (some ⟨3600000, .network⟩) 10 false).boards, night.Shows _ 10 harbour board :=
    exists_board_of_stop first (given ▸ rfl)
  have shown : nightBus ∈ board.departures := shows.mem_of_length_le given (by decide)
    (List.mem_singleton_self nightBus) fun _ _ _ => nofun
  exact ⟨night, _, load_nightDocument, rfl, board, listed, nightBus, shown, rfl, rfl⟩

end Timetable

end Itinerary
