import Itinerary.Proofs.Text.Bytes
import Itinerary.Proofs.Timetable.Interchange
import Itinerary.Web.Handler

/-!
# Departures from several stops

A client may name several stops in one request, in any order and some of them more than once, and
with equivalent stops the answers about them overlap. A station is taken from the first answer that
has it; later answers with a station that is recognised by the same text do not add it again.

Where such stations are the same place, it makes no difference which one is taken: what a board of a
place shows depends on the place and on the terms of the request, not on the stop that was asked
for. So the reply is the union of the answers (`Web.DeparturesReply.Gathers`), and every request
for the same ids on the same terms is replied to with the same boards, whatever their order and
however often they are named (`Web.departures_gathered`).

What is not promised is the order of the stations, which is that of the request. Unknown ids are
reported in the order of the request, and as often as they are named.
-/

namespace Itinerary

open Time (Moment Stamp)

namespace Timetable

variable {t : Timetable} {now : Stamp} {id : String} {time : Option Moment} {limit : Nat}
  {equivalent : Bool}

/-- An id that a place of the timetable has. -/
def Knows (t : Timetable) (id : String) : Prop := ∃ l ∈ t.locations, l.id = some id

instance (t : Timetable) (id : String) : Decidable (t.Knows id) :=
  inferInstanceAs (Decidable (∃ l ∈ t.locations, l.id = some id))

theorem location?_eq_none_iff : t.location? id = none ↔ ¬ t.Knows id := by
  rw [location?, find?_id_eq_none_iff]
  constructor
  · rintro none ⟨l, mem, own⟩
    exact none l mem own
  · intro unknown l mem own
    exact unknown ⟨l, mem, own⟩

/-- An id is known and answered, or it is unknown and nothing is listed for it. -/
theorem departuresFrom_cases (t : Timetable) (now : Stamp) (id : String) (time : Option Moment)
    (limit : Nat) (equivalent : Bool) :
    (t.Knows id ∧ (t.departuresFrom now id time limit equivalent).status = .ok) ∨
      (¬ t.Knows id ∧ (t.departuresFrom now id time limit equivalent).status = .invalidStation ∧
        (t.departuresFrom now id time limit equivalent).boards = []) := by
  cases first : t.location? id with
  | none =>
    refine .inr ⟨location?_eq_none_iff.1 first, ?_⟩
    rw [departuresFrom, first]
    exact ⟨rfl, rfl⟩
  | some stop =>
    refine .inl ⟨?_, ?_⟩
    · by_contra unknown
      rw [location?_eq_none_iff.2 unknown] at first
      cases first
    · rw [departuresFrom, first]

/-- Boards do not tell when they were asked for. -/
theorem boards_departuresFrom (other : Stamp) :
    (t.departuresFrom now id time limit equivalent).boards =
      (t.departuresFrom other id time limit equivalent).boards := by
  unfold departuresFrom
  cases t.location? id with
  | none => rfl
  | some stop => rfl

end Timetable

namespace Web

open Timetable (departuresFrom_cases)

/-! ## The ids in a request -/

/-- Whatever holds of all characters in all pieces holds of all characters but the separators. -/
theorem Form.forall_pieces_iff {separator : Char} {cs : List Char} {P : Char → Prop} :
    (∀ piece ∈ pieces separator cs, ∀ c ∈ piece, P c) ↔ ∀ c ∈ cs, c = separator ∨ P c := by
  induction cs with
  | nil => simp only [pieces, List.mem_singleton, forall_eq, List.not_mem_nil, false_imp_iff,
      implies_true]
  | cons c cs ih =>
    rw [pieces, List.forall_mem_cons, ← ih]
    by_cases here : c = separator
    · simp only [here, if_true, List.forall_mem_cons, List.not_mem_nil, false_imp_iff, implies_true,
        true_and, true_or]
    · rw [if_neg here]
      cases pieces separator cs with
      | nil => simp only [List.forall_mem_cons, List.not_mem_nil, false_imp_iff, implies_true,
          and_true, here, false_or]
      | cons piece more => simp only [List.forall_mem_cons, here, false_or, and_assoc]

namespace DeparturesRequest

/-- A request names no stop if it holds nothing but commas and blanks. -/
theorem ids_eq_nil_iff {r : DeparturesRequest} :
    r.ids = [] ↔ ∀ c ∈ r.stops.toList, c = ',' ∨ Text.isBlank c = true := by
  rw [ids, List.filter_eq_nil_iff, List.forall_mem_map, ← Form.forall_pieces_iff]
  refine forall₂_congr fun piece _ => ?_
  rw [decide_eq_true_iff, not_not, ← Text.trimChars_eq_nil_iff]
  exact String.ofList_eq_empty_iff

/-- What a timetable answers about one stop on the terms of a request. -/
def answerAbout (r : DeparturesRequest) (t : Timetable) (now : Stamp) (id : String) :
    DeparturesAnswer :=
  t.departuresFrom now id (r.time.map fun instant => ⟨instant, .system⟩) (min 100 (r.limit.getD 10))
    (r.equivalent.getD false)

/-- No boards are answered about a stop that is not known. -/
theorem boards_answerAbout_of_unknown {t : Timetable} {now : Stamp} {r : DeparturesRequest}
    {id : String} (unknown : ¬ t.Knows id) : (r.answerAbout t now id).boards = [] := by
  rcases departuresFrom_cases t now id (r.time.map fun instant => ⟨instant, .system⟩)
    (min 100 (r.limit.getD 10)) (r.equivalent.getD false) with ⟨known, -⟩ | ⟨-, -, nothing⟩
  · exact absurd known unknown
  · exact nothing

end DeparturesRequest

/-! ## Going through the stops -/

namespace DeparturesReply

variable {t : Timetable} {now : Stamp} {time : Option Moment} {limit : Nat} {equivalent : Bool}

/-- The text that the station of a board is recognised by. -/
def stationKey (b : StationBoard) : String := b.location.identity

/-- Adding boards keeps those that are there and takes the first ones of other stations. -/
theorem addBoards_eq (known boards : List StationBoard) :
    addBoards known boards = known ++ firstOnes stationKey (known.map stationKey) boards := by
  have decides (a b : StationBoard) :
      decide (a.location.identity = b.location.identity) = true ↔ stationKey a = stationKey b :=
    decide_eq_true_iff
  rw [← foldl_insert decides]
  induction boards generalizing known with
  | nil => rfl
  | cons b boards ih =>
    rw [addBoards, List.foldl_cons]
    split
    · exact ih known
    · exact ih _

/-- Boards may be added in two lots. -/
theorem addBoards_append (known boards more : List StationBoard) :
    addBoards known (boards ++ more) = addBoards (addBoards known boards) more := by
  induction boards generalizing known with
  | nil => rfl
  | cons b boards ih =>
    rw [List.cons_append, addBoards, addBoards]
    split
    · exact ih known
    · exact ih _

/-- Every stop is gone through, and what the answers bring is added up. -/
theorem collect_eq (reply : DeparturesReply) (ids : List String) :
    collect (fun id => (t.backend now).departures id time limit equivalent) reply ids =
      .ok ⟨addBoards reply.boards
          (ids.flatMap fun id => (t.departuresFrom now id time limit equivalent).boards),
        reply.unknown ++ ids.filter fun id => ¬ t.Knows id⟩ := by
  induction ids generalizing reply with
  | nil => simp only [collect, List.flatMap_nil, addBoards, List.filter_nil, List.append_nil]
  | cons id ids ih =>
    have asked : (t.backend now).departures id time limit equivalent =
        .ok (t.departuresFrom now id time limit equivalent) := rfl
    rw [collect, asked, List.flatMap_cons]
    rcases departuresFrom_cases t now id time limit equivalent with ⟨known, status⟩ |
      ⟨unknown, status, nothing⟩
    · simp only [status, ih, addBoards_append, known, not_true, decide_false, Bool.false_eq_true,
        not_false_iff, List.filter_cons_of_neg]
    · simp only [status, ih, nothing, List.nil_append, unknown, not_false_iff, decide_true,
        List.filter_cons_of_pos, List.append_assoc, List.singleton_append]

/-- All boards that are answered about the stops of a request, of each station the first one, and
the ids that are unknown. -/
def gathered (t : Timetable) (now : Stamp) (r : DeparturesRequest) : DeparturesReply where
  boards := firstOnes stationKey [] (r.ids.flatMap fun id => (r.answerAbout t now id).boards)
  unknown := r.ids.filter fun id => ¬ t.Knows id

end DeparturesReply

open DeparturesReply (gathered)
open DeparturesRequest (boards_answerAbout_of_unknown)

/-- A request for departures is refused if it names no stop, has no answer if no stop is known, and
is replied to in every other case. -/
theorem departures_eq (t : Timetable) (now : Stamp) (r : DeparturesRequest) :
    departures (t.backend now) r =
      if r.ids = [] then .error (.badRequest "No stop given")
      else if ∀ id ∈ r.ids, ¬ t.Knows id then .error (.notFound ("Unknown stop: " ++ r.stops))
      else .ok (gathered t now r) := by
  unfold departures
  by_cases none : r.ids = []
  · rw [if_pos none, if_pos (List.isEmpty_iff.2 none)]
  · rw [if_neg none, if_neg (mt List.isEmpty_iff.1 none)]
    simp only [DeparturesReply.collect_eq, DeparturesReply.addBoards_eq, List.nil_append,
      List.map_nil]
    show (if ((gathered t now r).boards.isEmpty &&
        decide ((gathered t now r).unknown.length = r.ids.length)) = true
      then Except.error (Problem.notFound ("Unknown stop: " ++ r.stops))
      else Except.ok (gathered t now r)) = _
    refine if_congr ?_ rfl rfl
    rw [Bool.and_eq_true, List.isEmpty_iff, decide_eq_true_iff]
    have allUnknown : (gathered t now r).unknown.length = r.ids.length ↔
        ∀ id ∈ r.ids, ¬ t.Knows id := by
      rw [gathered, List.length_filter_eq_length_iff]
      exact forall₂_congr fun id _ => decide_eq_true_iff
    rw [allUnknown]
    refine and_iff_right_of_imp fun unknown => ?_
    have nothing : (r.ids.flatMap fun id => (r.answerAbout t now id).boards) = [] :=
      List.flatMap_eq_nil_iff.2 fun id mem => boards_answerAbout_of_unknown (unknown id mem)
    rw [gathered, nothing]
    rfl

/-! ## The union of the answers -/

namespace DeparturesReply

variable {t : Timetable} {now other : Stamp} {r : DeparturesRequest} {stops : String}
  {reply again : DeparturesReply} {board board' : StationBoard} {id id' : String}

/-- A reply about the stops of a request: no station twice, the boards that are answered about one
of the stops and no others, and the ids that no place has, in the order of the request. -/
structure Gathers (t : Timetable) (now : Stamp) (r : DeparturesRequest)
    (reply : DeparturesReply) : Prop where
  apart : (reply.boards.map stationKey).Nodup
  boards : ∀ board, board ∈ reply.boards ↔ ∃ id ∈ r.ids, board ∈ (r.answerAbout t now id).boards
  unknown : reply.unknown = r.ids.filter fun id => ¬ t.Knows id

/-- Answers about different stops have one board of a station at most. -/
theorem eq_of_stationKey_eq (tells : t.IdentitiesTell)
    (mem : board ∈ (r.answerAbout t now id).boards)
    (mem' : board' ∈ (r.answerAbout t now id').boards)
    (same : stationKey board = stationKey board') : board = board' := by
  obtain ⟨l, known, shows⟩ := Timetable.exists_shows_of_mem mem
  obtain ⟨l', known', shows'⟩ := Timetable.exists_shows_of_mem mem'
  rw [stationKey, stationKey, shows.location, shows'.location] at same
  obtain rfl := tells l known l' known' same
  exact shows.unique shows'

/-- The reply that is put together gathers the answers about all stops. -/
theorem gathers_gathered (tells : t.IdentitiesTell) : (gathered t now r).Gathers t now r where
  apart := nodup_map_firstOnes stationKey [] _
  boards := by
    intro board
    have apart : ∀ a ∈ r.ids.flatMap fun id => (r.answerAbout t now id).boards,
        ∀ b ∈ r.ids.flatMap fun id => (r.answerAbout t now id).boards,
          stationKey a = stationKey b → a = b := by
      intro a ha b hb
      obtain ⟨id, -, mem⟩ := List.mem_flatMap.1 ha
      obtain ⟨id', -, mem'⟩ := List.mem_flatMap.1 hb
      exact eq_of_stationKey_eq tells mem mem'
    rw [gathered, mem_firstOnes_iff apart, List.mem_flatMap]
  unknown := rfl

/-- What is gathered depends on which ids are named, not on how they are named. -/
theorem Gathers.perm (first : reply.Gathers t now r)
    (second : again.Gathers t other { r with stops })
    (named : ∀ id, id ∈ ({ r with stops } : DeparturesRequest).ids ↔ id ∈ r.ids) :
    again.boards.Perm reply.boards := by
  have answers (id : String) :
      (({ r with stops } : DeparturesRequest).answerAbout t other id).boards =
        (r.answerAbout t now id).boards := Timetable.boards_departuresFrom now
  refine (List.perm_ext_iff_of_nodup second.apart.of_map first.apart.of_map).2 fun board => ?_
  simp only [second.boards, first.boards, answers, named]

end DeparturesReply

/-- Where places are told apart, a request for departures is refused just if it holds nothing but
commas and blanks, and its stops are not found just if it names some and none of them is known.
Otherwise the reply gathers what is answered about the stops one by one, and all requests for the
same ids on the same terms are replied to with the same boards. -/
theorem departures_gathered (t : Timetable) (tells : t.IdentitiesTell) (now : Stamp)
    (r : DeparturesRequest) :
    (departures (t.backend now) r = .error (.badRequest "No stop given") ↔ r.ids = []) ∧
      (r.ids = [] ↔ ∀ c ∈ r.stops.toList, c = ',' ∨ Text.isBlank c = true) ∧
      (departures (t.backend now) r = .error (.notFound ("Unknown stop: " ++ r.stops)) ↔
        r.ids ≠ [] ∧ ∀ id ∈ r.ids, ¬ t.Knows id) ∧
      ((∃ id ∈ r.ids, t.Knows id) →
        ∃ reply, departures (t.backend now) r = .ok reply ∧ reply.Gathers t now r ∧
          ∀ (other : Stamp) (stops : String),
            (∀ id, id ∈ ({ r with stops } : DeparturesRequest).ids ↔ id ∈ r.ids) →
              ∃ again, departures (t.backend other) { r with stops } = .ok again ∧
                again.boards.Perm reply.boards) := by
  have replied (now : Stamp) (r : DeparturesRequest) (known : ∃ id ∈ r.ids, t.Knows id) :
      departures (t.backend now) r = .ok (gathered t now r) := by
    obtain ⟨id, mem, known⟩ := known
    rw [departures_eq, if_neg (List.ne_nil_of_mem mem), if_neg fun unknown => unknown id mem known]
  refine ⟨?_, DeparturesRequest.ids_eq_nil_iff, ?_, fun known => ?_⟩
  · rw [departures_eq]
    by_cases none : r.ids = []
    · rw [if_pos none]
      exact iff_of_true rfl none
    · rw [if_neg none]
      refine iff_of_false ?_ none
      split
      · nofun
      · nofun
  · rw [departures_eq]
    by_cases none : r.ids = []
    · rw [if_pos none]
      exact iff_of_false nofun fun ⟨nonempty, _⟩ => nonempty none
    · rw [if_neg none]
      by_cases unknown : ∀ id ∈ r.ids, ¬ t.Knows id
      · rw [if_pos unknown]
        exact iff_of_true rfl ⟨none, unknown⟩
      · rw [if_neg unknown]
        exact iff_of_false nofun fun ⟨_, all⟩ => unknown all
  · refine ⟨gathered t now r, replied now r known, DeparturesReply.gathers_gathered tells, ?_⟩
    intro other stops named
    obtain ⟨id, mem, known⟩ := known
    exact ⟨_, replied other { r with stops } ⟨id, (named id).2 mem, known⟩,
      (DeparturesReply.gathers_gathered tells).perm (DeparturesReply.gathers_gathered tells) named⟩

/-! ## Stops of the market place -/

def marketRequest (stops : String) : DeparturesRequest := ⟨stops, none, some true, none⟩

/-- The same stations are replied with, in whatever order and however often they are asked for. -/
theorem departures_gathered_market :
    Timetable.market.IdentitiesTell ∧
      (∃ id ∈ (marketRequest "north, harbour,south ,,north,harbour").ids,
        Timetable.market.Knows id) ∧
      ∃ reply again,
        departures (Timetable.market.backend ⟨0, 0⟩)
            (marketRequest "north, harbour,south ,,north,harbour") = .ok reply ∧
          departures (Timetable.market.backend ⟨1, 0⟩) (marketRequest "harbour,south,north") =
            .ok again ∧
          reply.unknown = ["harbour", "harbour"] ∧ again.boards.Perm reply.boards := by
  have tells : Timetable.market.IdentitiesTell := Timetable.identitiesTell_of_nodup (by decide)
  have ids : (marketRequest "north, harbour,south ,,north,harbour").ids =
      ["north", "harbour", "south", "north", "harbour"] := by decide
  have ids' : (marketRequest "harbour,south,north").ids = ["harbour", "south", "north"] := by decide
  have named (id : String) : id ∈ (marketRequest "harbour,south,north").ids ↔
      id ∈ (marketRequest "north, harbour,south ,,north,harbour").ids := by
    simp only [ids, ids', List.mem_cons, List.not_mem_nil, or_false]
    tauto
  have known : ∃ id ∈ (marketRequest "north, harbour,south ,,north,harbour").ids,
      Timetable.market.Knows id := ⟨"north", by decide, by decide⟩
  obtain ⟨-, -, -, replies⟩ := departures_gathered Timetable.market tells ⟨0, 0⟩
    (marketRequest "north, harbour,south ,,north,harbour")
  obtain ⟨reply, replied, gathers, again⟩ := replies known
  obtain ⟨again, replied', alike⟩ := again ⟨1, 0⟩ "harbour,south,north" named
  exact ⟨tells, known, reply, again, replied, replied', gathers.unknown.trans (by decide), alike⟩

end Web

end Itinerary
