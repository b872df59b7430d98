import Itinerary.Place.Path
import Itinerary.Proofs.Text.Base64

/-!
# Paths and their texts correspond one to one

A text is read as a path exactly when it is the text of that path (`decode_eq_ok_iff`), so an
accepted text is in its one canonical form. The way there is down the layout: a word and its four
bytes (`wordBytes_wordOf`), a list of points and its bytes (`flatMap_pointsOf`), the body with its
number of points, and the whole list of bytes (`ofBytes_eq_ok_iff`). Base64 adds the outer layer.

The number of points is a word of four bytes. Writing keeps only its low bits, so all of this is
about paths with fewer than `2 ^ 32` points (`Path.Fits`); reading gives no others.
-/

namespace Itinerary.Path

/-! ## Words -/

/-- The value of a word by its bytes. -/
theorem toNat_wordOf (a b c d : UInt8) : (wordOf a b c d).toNat =
    a.toNat * 16777216 + (b.toNat * 65536 + (c.toNat * 256 + d.toNat)) := by
  have ha := a.toNat_lt
  have hb := b.toNat_lt
  have hc := c.toNat_lt
  have hd := d.toNat_lt
  -- Each byte lies above all bits of what is to its right, so joining the bits is adding.
  have low : c.toNat <<< 8 ||| d.toNat = c.toNat * 256 + d.toNat := by
    rw [← Nat.shiftLeft_add_eq_or_of_lt hd, Nat.shiftLeft_eq]
  have middle : b.toNat <<< 16 ||| (c.toNat * 256 + d.toNat) =
      b.toNat * 65536 + (c.toNat * 256 + d.toNat) := by
    rw [← Nat.shiftLeft_add_eq_or_of_lt (by omega), Nat.shiftLeft_eq]
  have high : a.toNat <<< 24 ||| (b.toNat * 65536 + (c.toNat * 256 + d.toNat)) =
      a.toNat * 16777216 + (b.toNat * 65536 + (c.toNat * 256 + d.toNat)) := by
    rw [← Nat.shiftLeft_add_eq_or_of_lt (by omega), Nat.shiftLeft_eq]
  calc (wordOf a b c d).toNat
      = a.toNat <<< 24 % 2 ^ 32 ||| b.toNat <<< 16 % 2 ^ 32 ||| c.toNat <<< 8 % 2 ^ 32
          ||| d.toNat := by
        simp only [wordOf, UInt32.toNat_or, UInt32.toNat_shiftLeft, UInt8.toNat_toUInt32]
        rfl
    _ = a.toNat <<< 24 ||| b.toNat <<< 16 ||| c.toNat <<< 8 ||| d.toNat := by
        rw [Nat.mod_eq_of_lt, Nat.mod_eq_of_lt, Nat.mod_eq_of_lt] <;>
          rw [Nat.shiftLeft_eq] <;> omega
    _ = a.toNat * 16777216 + (b.toNat * 65536 + (c.toNat * 256 + d.toNat)) := by
        rw [Nat.or_assoc, Nat.or_assoc, low, middle, high]

/-- A word of four bytes, the highest first. -/
theorem wordBytes_eq (w : UInt32) : wordBytes w =
    [UInt8.ofNat (w.toNat / 16777216), UInt8.ofNat (w.toNat / 65536),
      UInt8.ofNat (w.toNat / 256), UInt8.ofNat w.toNat] := by
  simp only [wordBytes, List.cons.injEq, and_true, ← UInt8.toNat_inj, UInt32.toNat_toUInt8,
    UInt32.toNat_shiftRight, UInt8.toNat_ofNat', Nat.shiftRight_eq_div_pow]
  exact ⟨rfl, rfl, rfl⟩

/-- The bytes of a word are read as that word. -/
theorem wordOf_of_wordBytes {w : UInt32} {a b c d : UInt8} (h : wordBytes w = [a, b, c, d]) :
    wordOf a b c d = w := by
  have hw := w.toNat_lt
  rw [wordBytes_eq] at h
  simp only [List.cons.injEq, and_true] at h
  obtain ⟨rfl, rfl, rfl, rfl⟩ := h
  rw [← UInt32.toNat_inj, toNat_wordOf]
  simp only [UInt8.toNat_ofNat']
  omega

/-- Four bytes are read back after they were put together to a word. -/
theorem wordBytes_wordOf (a b c d : UInt8) : wordBytes (wordOf a b c d) = [a, b, c, d] := by
  have ha := a.toNat_lt
  have hb := b.toNat_lt
  have hc := c.toNat_lt
  have hd := d.toNat_lt
  rw [wordBytes_eq, toNat_wordOf]
  simp only [List.cons.injEq, and_true, ← UInt8.toNat_inj, UInt8.toNat_ofNat']
  omega

/-! ## Points -/

theorem length_pointBytes (p : Point) : (pointBytes p).length = 8 := rfl

/-- Every point takes eight bytes. -/
theorem length_flatMap_pointBytes (points : List Point) :
    (points.flatMap pointBytes).length = points.length * 8 := by
  induction points with
  | nil => rfl
  | cons p points ih =>
    rw [List.flatMap_cons, List.length_append, ih, length_pointBytes, List.length_cons]
    omega

/-- The point at the front is read first. -/
theorem pointsOf_pointBytes_append (p : Point) (rest : List UInt8) :
    pointsOf (pointBytes p ++ rest) = p :: pointsOf rest := by
  have lat : wordOf _ _ _ _ = p.lat.toUInt32 := wordOf_of_wordBytes rfl
  have lon : wordOf _ _ _ _ = p.lon.toUInt32 := wordOf_of_wordBytes rfl
  show (⟨(wordOf _ _ _ _).toInt32, (wordOf _ _ _ _).toInt32⟩ : Point) :: pointsOf rest = _
  rw [lat, lon, Int32.toInt32_toUInt32, Int32.toInt32_toUInt32]

/-- Points are read back from their bytes. -/
theorem pointsOf_flatMap (points : List Point) :
    pointsOf (points.flatMap pointBytes) = points := by
  induction points with
  | nil => rfl
  | cons p points ih => rw [List.flatMap_cons, pointsOf_pointBytes_append, ih]

/-- Bytes in groups of eight are the bytes of the points that are read from them. -/
theorem flatMap_pointsOf {n : Nat} {bytes : List UInt8} (h : bytes.length = n * 8) :
    (pointsOf bytes).flatMap pointBytes = bytes ∧ (pointsOf bytes).length = n := by
  fun_induction pointsOf bytes generalizing n with
  | case1 a b c d e f g x rest ih =>
    simp only [List.length_cons] at h
    obtain ⟨bytes, count⟩ := ih (n := n - 1) (by omega)
    refine ⟨?_, by rw [List.length_cons, count]; omega⟩
    rw [List.flatMap_cons, bytes, pointBytes, UInt32.toUInt32_toInt32, UInt32.toUInt32_toInt32,
      wordBytes_wordOf, wordBytes_wordOf]
    rfl
  | case2 bytes short =>
    -- Without eight bytes at its head the list has fewer than eight, so here it is empty.
    match bytes, short, h with
    | [], _, h => exact ⟨rfl, by simp only [List.length_nil] at h ⊢; omega⟩
    | [_], _, h | [_, _], _, h | [_, _, _], _, h | [_, _, _, _], _, h | [_, _, _, _, _], _, h
    | [_, _, _, _, _, _], _, h | [_, _, _, _, _, _, _], _, h =>
      simp only [List.length_cons, List.length_nil] at h
      omega
    | a :: b :: c :: d :: e :: f :: g :: x :: rest, short, _ =>
      exact absurd rfl (short a b c d e f g x rest)

/-! ## Bytes -/

/-- A path whose points can be counted in a word of four bytes. -/
def Fits (path : Path) : Prop := ∀ points ∈ path, points.length < UInt32.size

/-- What is read behind the marker of a path, by the word in front and the bytes behind it. -/
theorem pointsOfBody_wordBytes_append (count : UInt32) (rest : List UInt8) :
    pointsOfBody (wordBytes count ++ rest) =
      if rest.length < count.toNat * 8 then
        .error (.truncated (6 + count.toNat * 8) (6 + rest.length))
      else if count.toNat * 8 < rest.length then .error (.trailing (rest.length - count.toNat * 8))
      else .ok (pointsOf rest) := by
  have word : wordOf _ _ _ _ = count := wordOf_of_wordBytes rfl
  show pointsOfBody (_ :: _ :: _ :: _ :: rest) = _
  simp only [pointsOfBody, word]

/-- The number of points is kept in its word if it fits into one. -/
theorem toNat_ofNat_length {points : List Point} (h : points.length < UInt32.size) :
    (UInt32.ofNat points.length).toNat = points.length :=
  UInt32.toNat_ofNat_of_lt h

/-- The body of a path is read back: the number of points and the points. -/
theorem pointsOfBody_of_fits {points : List Point} (h : points.length < UInt32.size) :
    pointsOfBody (wordBytes (UInt32.ofNat points.length) ++ points.flatMap pointBytes) =
      .ok points := by
  rw [pointsOfBody_wordBytes_append, toNat_ofNat_length h, length_flatMap_pointBytes,
    if_neg (Nat.lt_irrefl _), if_neg (Nat.lt_irrefl _), pointsOf_flatMap]

/-- What is read from a body fits its word, and the body is what is written for it. -/
theorem body_of_pointsOfBody {body : List UInt8} {points : List Point}
    (h : pointsOfBody body = .ok points) :
    points.length < UInt32.size ∧
      body = wordBytes (UInt32.ofNat points.length) ++ points.flatMap pointBytes := by
  match body, h with
  | [], h | [_], h | [_, _], h | [_, _, _], h => contradiction
  | a :: b :: c :: d :: rest, h =>
    have front : a :: b :: c :: d :: rest = wordBytes (wordOf a b c d) ++ rest := by
      rw [wordBytes_wordOf]
      rfl
    rw [front, pointsOfBody_wordBytes_append] at h
    split at h
    · contradiction
    split at h
    · contradiction
    · rename_i enough exact
      obtain rfl := Except.ok.inj h
      have whole : rest.length = (wordOf a b c d).toNat * 8 := by omega
      obtain ⟨bytes, count⟩ := flatMap_pointsOf whole
      rw [front, bytes, count, UInt32.ofNat_toNat]
      exact ⟨UInt32.toNat_lt _, rfl⟩

/-- Bytes are read as a path exactly when they are the bytes of that path. -/
theorem ofBytes_eq_ok_iff {bytes : List UInt8} {path : Path} :
    ofBytes bytes = .ok path ↔ path.Fits ∧ bytes = toBytes path := by
  constructor
  · intro h
    match bytes, h with
    | [], h | [_], h => contradiction
    | v :: marker :: body, h =>
      simp only [ofBytes] at h
      split at h
      · contradiction
      rename_i sameVersion
      obtain rfl := not_not.1 sameVersion
      -- The marker says whether there are points; without them nothing may follow.
      split at h
      · rename_i absent
        split at h
        · rename_i bare
          obtain rfl := Except.ok.inj h
          rw [absent, List.isEmpty_iff.1 bare]
          exact ⟨fun _ none => absurd none (by simp), rfl⟩
        · contradiction
      split at h
      · rename_i present
        cases hbody : pointsOfBody body with
        | error defect => rw [hbody] at h; contradiction
        | ok points =>
          rw [hbody] at h
          obtain rfl := Except.ok.inj h
          obtain ⟨fits, rfl⟩ := body_of_pointsOfBody hbody
          rw [present]
          exact ⟨fun _ here => Option.some.inj here ▸ fits, rfl⟩
      · contradiction
  · rintro ⟨fits, rfl⟩
    cases path with
    | none => rfl
    | some points =>
      show (pointsOfBody (wordBytes _ ++ points.flatMap pointBytes)).map some = _
      rw [pointsOfBody_of_fits (fits points rfl)]
      rfl

/-! ## Texts -/

/-- A path is read from its own text only, and only if its points can be counted in a word. -/
theorem decode_eq_ok_iff_fits {text : String} {path : Path} :
    decode text = .ok path ↔ path.Fits ∧ text = encode path := by
  rw [decode]
  constructor
  · intro h
    split at h
    · rename_i bytes read
      obtain ⟨fits, rfl⟩ := ofBytes_eq_ok_iff.1 h
      exact ⟨fits, Text.Base64.ofText?_eq_some_iff.1 read⟩
    · contradiction
  · rintro ⟨fits, rfl⟩
    rw [encode, Text.Base64.ofText?_toText]
    exact ofBytes_eq_ok_iff.2 ⟨fits, rfl⟩

/-- Paths have different texts as long as their points can be counted in a word. -/
theorem encode_injective {p q : Path} (hp : p.Fits) (hq : q.Fits) (h : encode p = encode q) :
    p = q := by
  have readP : decode (encode p) = .ok p := decode_eq_ok_iff_fits.2 ⟨hp, rfl⟩
  have readQ : decode (encode p) = .ok q := decode_eq_ok_iff_fits.2 ⟨hq, h⟩
  exact Except.ok.inj (readP.symm.trans readQ)

/-- A text is read as a path exactly when it is the text of that path. So no path and a path without
points have different texts, no path has two texts, and a text that is no path's is refused. -/
theorem decode_eq_ok_iff (text : String) (path : Path) (fits : path.Fits) :
    (decode text = .ok path ↔ text = encode path) ∧
      encode none ≠ encode (some []) ∧
      (∀ other, decode text = .ok path → decode other = .ok path → other = text) ∧
      ((∀ p : Path, p.Fits → text ≠ encode p) → ∃ defect, decode text = .error defect) := by
  refine ⟨?_, ?_, ?_, ?_⟩
  · constructor
    · intro h
      exact (decode_eq_ok_iff_fits.1 h).2
    · intro h
      exact decode_eq_ok_iff_fits.2 ⟨fits, h⟩
  · intro same
    have absent : Fits none := fun _ h => absurd h (Option.not_mem_none _)
    have empty : Fits (some []) := fun _ h => Option.some.inj h ▸ by decide
    exact absurd (encode_injective absent empty same) (Option.some_ne_none _).symm
  · intro other h h'
    obtain ⟨-, rfl⟩ := decode_eq_ok_iff_fits.1 h
    exact (decode_eq_ok_iff_fits.1 h').2
  · intro foreign
    cases read : decode text with
    | error defect => exact ⟨defect, rfl⟩
    | ok p =>
      obtain ⟨pFits, same⟩ := decode_eq_ok_iff_fits.1 read
      exact absurd same (foreign p pFits)

/-- A point east of the zero meridian by one millionth of a degree and one west of it. -/
theorem decode_two_points :
    Fits (some [⟨0, 1⟩, ⟨0, -1⟩]) ∧
      decode "AQEAAAACAAAAAAAAAAEAAAAA_____w" = .ok (some [⟨0, 1⟩, ⟨0, -1⟩]) := by
  have fits : Fits (some [⟨0, 1⟩, ⟨0, -1⟩]) := fun _ h => Option.some.inj h ▸ by decide
  exact ⟨fits, (decode_eq_ok_iff _ _ fits).1.2 (by decide)⟩

end Itinerary.Path
