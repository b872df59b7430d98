import Itinerary.Proofs.Json.Outcome
import Itinerary.Proofs.Json.Printed
import Itinerary.Time.Moment

/-!
# Reading times back

An offset in minutes is written as the number of its minutes, and three numbers stand for the three
offsets that are not known in minutes. Minutes with such a number come back as one of these: as the
offset that the word stands for (`Offset.reread`). The word itself is the same, and so is the
instant (`Moment.agrees_reread`). An offset is `Genuine` when it comes back as it was; all offsets
that are read are genuine.
-/

namespace Itinerary.Time

open Json

/-- The offset that the word of an offset stands for. -/
def Offset.reread (o : Offset) : Offset := .ofWord o.toWord

/-- An offset that is the one that its word stands for. -/
def Offset.Genuine (o : Offset) : Prop := Offset.ofWord o.toWord = o

/-- What a word stands for comes back from its word. -/
theorem Offset.genuine_ofWord (w : Int32) : (Offset.ofWord w).Genuine := by
  rw [Genuine, toWord_ofWord]

/-- An offset is read as the one that its word stands for. -/
theorem Offset.accepts_reread (o : Offset) : Offset.reader.Accepts o.toJson o.reread :=
  .map ofWord (Reader.ReadsBack.int32 o.toWord)

/-- An offset is read back if it is the one that its word stands for. -/
theorem Offset.readsBack {o : Offset} (genuine : o.Genuine) :
    Offset.reader.ReadsBack Offset.toJson o := by
  have accepts := o.accepts_reread
  rw [reread, genuine] at accepts
  exact accepts

namespace Moment

/-- The moment with the offset that its word stands for. -/
def reread (m : Moment) : Moment := { m with offset := m.offset.reread }

/-- The same instant with the same word for the offset. -/
structure Agrees (a b : Moment) : Prop where
  instant : a.instant = b.instant
  offset : a.offset.toWord = b.offset.toWord

theorem agrees_reread (m : Moment) : m.Agrees m.reread :=
  ⟨rfl, (Offset.toWord_ofWord _).symm⟩

theorem Agrees.ms {a b : Moment} (agrees : a.Agrees b) : a.ms = b.ms :=
  congrArg Int64.toInt agrees.instant

/-- A moment is read as the same instant, with the offset that the word of its offset stands for. -/
theorem accepts_reread (m : Moment) : reader.Accepts m.toJson m.reread :=
  Fields.Reads.record <|
    Fields.Reads.map Moment.mk (.field (.int64 m.instant))
      |>.seq (.accepted m.offset.accepts_reread) (by simp)

/-- A moment is read back if its offset comes back from its word. -/
theorem readsBack {m : Moment} (genuine : m.offset.Genuine) : reader.ReadsBack toJson m :=
  Fields.Reads.record <|
    Fields.Reads.map Moment.mk (.field (.int64 m.instant))
      |>.seq (.field (Offset.readsBack genuine)) (by simp)

/-- No reader gives a moment whose offset would not come back. -/
theorem gives_genuine : reader.Gives fun m => m.offset.Genuine :=
  Fields.Gives.record <| .seq Offset.Genuine (.map (.of_forall fun _ _ genuine => genuine)) <|
    .field (.map Offset.genuine_ofWord) nofun nofun

theorem plain (m : Moment) (depth : Nat) : m.toJson.Plain (depth + 1) :=
  ⟨plain_int64 m.instant depth, plain_int32 m.offset.toWord depth, trivial⟩

end Moment

end Itinerary.Time
