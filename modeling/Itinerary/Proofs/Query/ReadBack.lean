import Itinerary.Proofs.Place.ReadBack
import Itinerary.Proofs.Text.Base64
import Itinerary.Proofs.Time.ReadBack
import Itinerary.Query.Token

/-!
# Reading continuations back

A continuation goes out as a token and comes back as it was (`Token.decode_encode`): query, options
and cursors are read from the JSON that was written of them, that JSON is plain, and a token has no
blanks to lose.

The time of a query comes back as it was if its offset is the one that its word stands for
(`Time.Offset.Genuine`), as the offset of every query that was read is.
-/

namespace Itinerary

open Json
open Time (Moment Offset)

/-! ## Queries and options -/

theorem Bound.readsBack (b : Bound) : Bound.reader.ReadsBack Bound.toJson b :=
  .variant (by cases b <;> rfl)

/-- A query is read back if the offset of its time comes back from its word. -/
theorem Query.readsBack {q : Query} (genuine : q.time.offset.Genuine) :
    Query.reader.ReadsBack Query.toJson q :=
  Fields.Reads.record <|
    Fields.Reads.map Query.mk (.field q.origin.readsBack)
      |>.seq (.field (.optional (fun l _ => l.readsBack) fun _ => nofun)) (by simp)
      |>.seq (.field q.destination.readsBack) (by simp)
      |>.seq (.field (Moment.readsBack genuine)) (by simp)
      |>.seq (.field q.bound.readsBack) (by simp)

/-- The time of a query that is read has a genuine offset. -/
theorem Query.gives_genuine : Query.reader.Gives fun q => q.time.offset.Genuine := by
  refine Fields.Gives.record <| .seq (fun _ => True) ?_ (.of_forall fun _ => trivial)
  refine .seq (fun m => m.offset.Genuine) ?_ (.field Moment.gives_genuine nofun nofun)
  refine .seq (fun _ => True) ?_ (.of_forall fun _ => trivial)
  refine .seq (fun _ => True) ?_ (.of_forall fun _ => trivial)
  exact .map (.of_forall fun _ _ _ _ _ _ genuine _ _ => genuine)

/-- A query is written without a number beyond every float and not nested too deep. -/
theorem Query.plain (q : Query) (depth : Nat) : q.toJson.Plain (depth + 3) :=
  ⟨q.origin.plain depth, plain_opt fun l _ => l.plain depth, q.destination.plain depth,
    q.time.plain (depth + 1), trivial, trivial⟩

theorem WalkSpeed.readsBack (w : WalkSpeed) : WalkSpeed.reader.ReadsBack WalkSpeed.toJson w :=
  .variant (by cases w <;> rfl)

theorem Goal.readsBack (g : Goal) : Goal.reader.ReadsBack Goal.toJson g :=
  .variant (by cases g <;> rfl)

theorem Accessibility.readsBack (a : Accessibility) :
    Accessibility.reader.ReadsBack Accessibility.toJson a :=
  .variant (by cases a <;> rfl)

/-- Options are read back, those that are left out and those that are set. -/
theorem Options.readsBack (o : Options) : Options.reader.ReadsBack Options.toJson o :=
  Fields.Reads.record <|
    Fields.Reads.map Options.mk
        (.field (.optional (fun s _ => s.readsBack) fun _ => nofun))
      |>.seq (.field o.walkSpeed.readsBack) (by simp)
      |>.seq (.field o.goal.readsBack) (by simp)
      |>.seq (.field (.optional (fun n _ => .uint32 n) fun _ => nofun)) (by simp)
      |>.seq (.field o.accessibility.readsBack) (by simp)

theorem Options.plain (o : Options) (depth : Nat) : o.toJson.Plain (depth + 1) :=
  ⟨plain_opt fun _ _ => trivial, trivial, trivial, plain_opt fun n _ => plain_uint32 n depth,
    trivial, trivial⟩

/-! ## Continuations -/

/-- A continuation is read back if the offset of the time in its query comes back from its word. -/
theorem Continuation.readsBack {c : Continuation} (genuine : c.query.time.offset.Genuine) :
    Continuation.reader.ReadsBack Continuation.toJson c :=
  Fields.Reads.record <|
    Fields.Reads.map Continuation.mk (.field (Query.readsBack genuine))
      |>.seq (.field c.options.readsBack) (by simp)
      |>.seq (.field (.optText c.earlierCursor)) (by simp)
      |>.seq (.field (.optText c.laterCursor)) (by simp)

/-- A continuation can be read from its text: it is written plainly, as deep as its locations go. -/
theorem Continuation.plain (c : Continuation) (depth : Nat) : c.toJson.Plain (depth + 4) :=
  ⟨c.query.plain depth, c.options.plain (depth + 2), plain_opt fun _ _ => trivial,
    plain_opt fun _ _ => trivial, trivial⟩

namespace Token

/-- The bytes of a continuation are read as the continuation. -/
theorem ofBytes_text {c : Continuation} (genuine : c.query.time.offset.Genuine) :
    ofBytes c.toJson.text.toUTF8.toList = .ok c := by
  rw [ofBytes, scanBytes_text (c.plain 123)]
  exact (Continuation.readsBack genuine).document

/-- Letters of base64 are no blanks. -/
theorem isBlank_letter {n : Nat} (h : n < 64) :
    Text.isBlank (Text.Base64.letter n) = false := by
  have all : ∀ n < 64, Text.isBlank (Text.Base64.letter n) = false := by decide
  exact all n h

/-- What is written with letters has no blanks in it, so nothing of it is trimmed. -/
theorem visible_toText (bytes : List UInt8) :
    ∀ c ∈ (Text.Base64.toText bytes).toList, Text.isBlank c = false := by
  intro c mem
  obtain ⟨n, small, rfl⟩ := Text.Base64.exists_letter_of_mem_toText mem
  exact isBlank_letter small

/-- A token is read as the continuation that it was made of. -/
theorem decode_encode {c : Continuation} (genuine : c.query.time.offset.Genuine) :
    decode (encode c) = .ok c := by
  rw [decode, encode, Text.trim_eq_of_visible (visible_toText _), Text.Base64.ofText?_toText]
  show (ofBytes c.toJson.text.toUTF8.toList).mapError _ = _
  rw [ofBytes_text genuine]
  rfl

end Token

end Itinerary
