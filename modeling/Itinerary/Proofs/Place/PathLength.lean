import Itinerary.Proofs.Place.PathText

/-!
# Encoded paths that are too short or too long

Bytes that end before the path does are refused with two numbers: how many there should be and how
many there are. How many there should be is known only as far as the bytes have been seen. That is
two until the marker has come, six until the number of points has come, and all of them from there
on (`Path.awaited`). Bytes behind the end of the path are refused with their number.

So the end of a path can be told from its bytes alone, and no path's bytes begin another path's
(`Path.eq_of_toBytes_begins`). As before, the paths are those whose points can be counted in a word
(`Path.Fits`): with `2 ^ 32` points the word is zero again, and the bytes of the path without points
do begin such bytes.
-/

namespace Itinerary.Path

variable {path other : Path} {points : List Point} {front body more : List UInt8} {k : Nat}

/-- The number of bytes that are waited for when so many bytes of a path have come. -/
def awaited (path : Path) (k : Nat) : Nat :=
  if k < 2 then 2 else if k < 6 then 6 else path.toBytes.length

/-- A path with points has two bytes in front, four for their number and eight for each of them. -/
theorem length_toBytes_some (points : List Point) :
    (toBytes (some points)).length = 6 + points.length * 8 := by
  show (version :: 1 :: (wordBytes _ ++ points.flatMap pointBytes)).length = _
  rw [List.length_cons, List.length_cons, List.length_append, length_flatMap_pointBytes]
  show 4 + points.length * 8 + 2 = _
  omega

/-- As long as a path is not complete, more bytes are awaited than have come. -/
theorem lt_awaited (inside : k < path.toBytes.length) : k < path.awaited k := by
  unfold awaited
  split
  · assumption
  · split
    · assumption
    · exact inside

/-! ## Too short -/

/-- Without four bytes behind the marker the number of points is not known. -/
theorem pointsOfBody_of_short (short : body.length < 4) :
    pointsOfBody body = .error (.truncated 6 (2 + body.length)) := by
  match body, short with
  | [], _ | [_], _ | [_, _], _ | [_, _, _], _ => rfl

/-- Once the number of points has come, what is missing is counted to the end of the last point. -/
theorem pointsOfBody_of_cut (fits : points.length < UInt32.size)
    (begins : body <+: wordBytes (UInt32.ofNat points.length) ++ points.flatMap pointBytes)
    (cut : body.length < 4 + points.length * 8) :
    pointsOfBody body =
      .error (.truncated (awaited (some points) (2 + body.length)) (2 + body.length)) := by
  unfold awaited
  rw [if_neg (by omega)]
  by_cases short : body.length < 4
  · rw [pointsOfBody_of_short short, if_pos (by omega)]
  · -- The word has come in full, so what follows it is counted against the points it announces.
    have word : wordBytes (UInt32.ofNat points.length) <+: body :=
      List.prefix_of_prefix_length_le (List.prefix_append _ _) begins (Nat.le_of_not_lt short)
    obtain ⟨rest, rfl⟩ := word
    have count : (wordBytes (UInt32.ofNat points.length) ++ rest).length = 4 + rest.length :=
      List.length_append
    rw [count] at short cut ⊢
    rw [pointsOfBody_wordBytes_append, toNat_ofNat_length fits, if_pos (by omega),
      if_neg (by omega), length_toBytes_some, ← Nat.add_assoc]

/-- Bytes of a path that end too early are refused as cut. -/
theorem ofBytes_of_cut (fits : path.Fits) (begins : front <+: path.toBytes)
    (cut : front.length < path.toBytes.length) :
    ofBytes front = .error (.truncated (path.awaited front.length) front.length) := by
  match front, begins, cut with
  | [], _, _ | [_], _, _ => rfl
  | v :: marker :: body, begins, cut =>
    cases path with
    | none => exact absurd cut (Nat.not_lt.2 (Nat.le_add_left 2 body.length))
    | some points =>
      have laidOut : v :: marker :: body <+:
          version :: 1 :: (wordBytes _ ++ points.flatMap pointBytes) := begins
      rw [List.cons_prefix_cons, List.cons_prefix_cons] at laidOut
      obtain ⟨rfl, rfl, behind⟩ := laidOut
      have length : (version :: 1 :: body).length = 2 + body.length := by
        rw [List.length_cons, List.length_cons]
        omega
      rw [length, length_toBytes_some] at cut
      show (pointsOfBody body).map some = _
      rw [pointsOfBody_of_cut (fits points rfl) behind (by omega), length]
      rfl

/-! ## Too long -/

/-- Bytes behind those of a path are refused by their number. -/
theorem ofBytes_append (fits : path.Fits) (extra : more ≠ []) :
    ofBytes (path.toBytes ++ more) = .error (.trailing more.length) := by
  cases path with
  | none =>
    exact if_neg (mt List.isEmpty_iff.1 extra)
  | some points =>
    have some_more : 0 < more.length := List.length_pos_iff.2 extra
    show (pointsOfBody (wordBytes _ ++ points.flatMap pointBytes ++ more)).map some = _
    rw [List.append_assoc, pointsOfBody_wordBytes_append, toNat_ofNat_length (fits points rfl),
      List.length_append, length_flatMap_pointBytes, if_neg (by omega), if_pos (by omega),
      Nat.add_sub_cancel_left]
    rfl

/-- No path's bytes begin those of another path. -/
theorem eq_of_toBytes_begins (fits : path.Fits) (otherFits : other.Fits)
    (begins : path.toBytes <+: other.toBytes) : other = path := by
  obtain ⟨more, whole⟩ := begins
  have read : ofBytes other.toBytes = .ok other := ofBytes_eq_ok_iff.2 ⟨otherFits, rfl⟩
  rw [← whole] at read
  by_cases extra : more = []
  · rw [extra, List.append_nil, ofBytes_eq_ok_iff.2 ⟨fits, rfl⟩] at read
    exact (Except.ok.inj read).symm
  · rw [ofBytes_append fits extra] at read
    contradiction

/-- The bytes of a path cut anywhere are refused with the number that was waited for at that place,
and bytes behind them are refused by their number. So no path's bytes begin another path's. -/
theorem ofBytes_cut_or_extended (path : Path) (fits : path.Fits) :
    (∀ k < path.toBytes.length, k < path.awaited k ∧
      ofBytes (path.toBytes.take k) = .error (.truncated (path.awaited k) k)) ∧
    (∀ more, more ≠ [] → ofBytes (path.toBytes ++ more) = .error (.trailing more.length)) ∧
    ∀ other : Path, other.Fits → path.toBytes <+: other.toBytes → other = path := by
  refine ⟨?_, ?_, ?_⟩
  · intro k inside
    have length : (path.toBytes.take k).length = k := List.length_take_of_le (Nat.le_of_lt inside)
    have refused := ofBytes_of_cut fits (List.take_prefix k _) (length.symm ▸ inside)
    rw [length] at refused
    exact ⟨lt_awaited inside, refused⟩
  · intro more extra
    exact ofBytes_append fits extra
  · intro other otherFits begins
    exact eq_of_toBytes_begins fits otherFits begins

/-- One point, cut in the marker, in the number of points and in the point, and one byte longer. -/
theorem ofBytes_cut_or_extended_point :
    Fits (some [⟨1, -1⟩]) ∧ ofBytes [1] = .error (.truncated 2 1) ∧
      ofBytes [1, 1, 0, 0, 0] = .error (.truncated 6 5) ∧
      ofBytes [1, 1, 0, 0, 0, 1, 0, 0, 0] = .error (.truncated 14 9) ∧
      ofBytes [1, 1, 0, 0, 0, 1, 0, 0, 0, 1, 255, 255, 255, 255, 7] = .error (.trailing 1) := by
  have fits : Fits (some [⟨1, -1⟩]) := fun _ h => Option.some.inj h ▸ by decide
  obtain ⟨cut, extended, -⟩ := ofBytes_cut_or_extended _ fits
  exact ⟨fits, (cut 1 (by decide)).2, (cut 5 (by decide)).2, (cut 9 (by decide)).2,
    extended [7] (by decide)⟩

end Itinerary.Path
