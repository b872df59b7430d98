import Itinerary.Document
import Itinerary.Proofs.Time.ReadBack
import Itinerary.Proofs.Time.Shown

/-!
# Which offsets their words tell

There are three offsets more than there are words, so three of them have to share a word with
another one: minutes whose number is the word of the place, of the device or of the network
(`Offset.Misread`). A word is read as the offset that is not known in minutes. So every word comes
back from its offset, and an offset comes back from its word if and only if it is none of these
three (`Offset.genuine_iff`).

A moment that is written and read again keeps the instant and the word in any case. If its offset is
misread, it comes back with another offset that has no minutes, and riders see that, unless the
instant has no place in the calendar and is shown as a number (`Moment.SeenIn`).
-/

namespace Itinerary.Time

namespace Offset

/-- The offsets that are not known in minutes. -/
def unmeasured : List Offset := [.location, .system, .network]

/-- Minutes whose number is the word of another offset. -/
def Misread (o : Offset) : Prop := ∃ u ∈ unmeasured, o = .minutes u.toWord

theorem mem_unmeasured_iff {o : Offset} : o ∈ unmeasured ↔ o.minutes? = none := by
  cases o <;> simp [unmeasured, minutes?]

/-- Each of the three offsets without minutes has a word of its own. -/
theorem genuine_of_mem_unmeasured {o : Offset} (mem : o ∈ unmeasured) : o.Genuine := by
  have all : ∀ o ∈ unmeasured, ofWord o.toWord = o := by decide
  exact all o mem

/-- A word that stands for no other offset stands for so many minutes. -/
theorem ofWord_eq_minutes {w : Int32} (free : ∀ u ∈ unmeasured, w ≠ u.toWord) :
    ofWord w = .minutes w := by
  have place : w ≠ locationWord := free .location (by decide)
  have device : w ≠ systemWord := free .system (by decide)
  have network : w ≠ networkWord := free .network (by decide)
  rw [ofWord, if_neg place, if_neg device, if_neg network]

/-- Offsets that are misread come back as offsets not known in minutes. -/
theorem Misread.reread_mem {o : Offset} (misread : o.Misread) : o.reread ∈ unmeasured := by
  obtain ⟨u, mem, rfl⟩ := misread
  have back : (minutes u.toWord).reread = u := genuine_of_mem_unmeasured mem
  rwa [back]

/-- What is misread has minutes itself. -/
theorem Misread.not_mem {o : Offset} (misread : o.Misread) : o ∉ unmeasured := by
  obtain ⟨u, -, rfl⟩ := misread
  exact fun mem => nomatch mem_unmeasured_iff.1 mem

/-- An offset comes back from its word unless it is minutes with the word of another offset. -/
theorem genuine_iff {o : Offset} : o.Genuine ↔ ¬ o.Misread := by
  constructor
  · intro genuine misread
    have mem := misread.reread_mem
    -- Minutes would have come back as themselves, so as an offset without minutes.
    rw [reread, genuine] at mem
    exact misread.not_mem mem
  · intro clear
    cases o with
    | minutes w => exact ofWord_eq_minutes fun u mem same => clear ⟨u, mem, congrArg minutes same⟩
    | location => rfl
    | system => rfl
    | network => rfl

end Offset

namespace Moment

/-- Clocks show nothing of an offset without minutes. -/
theorem clockOffset?_eq_none_of_unmeasured {m : Moment} (mem : m.offset ∈ Offset.unmeasured) :
    m.clockOffset? = none := by
  rw [clockOffset?, Offset.mem_unmeasured_iff.1 mem]

/-- Clocks show nothing of a misread offset either: it is far more than a day. -/
theorem clockOffset?_eq_none_of_misread {m : Moment} (misread : m.offset.Misread) :
    m.clockOffset? = none := by
  have low : ∀ u ∈ Offset.unmeasured, ¬ -1440 < u.toWord.toInt := by decide
  obtain ⟨u, mem, same⟩ := misread
  simp [clockOffset?, same, Offset.minutes?, low u mem]

/-- Where clocks do not show the offset, a moment is shown in UTC, and off the calendar as a number.
-/
theorem face_of_clockOffset?_eq_none {m : Moment} (hidden : m.clockOffset? = none) :
    m.face = if m.onCalendar then .utc m.minute (offsetName m.offset) else .bare m.ms := by
  rw [face, hidden]

/-- Minutes have another name than offsets that are not known in minutes. -/
theorem offsetName_ne_of_misread {o u : Offset} (misread : o.Misread)
    (mem : u ∈ Offset.unmeasured) : offsetName u ≠ offsetName o := by
  have all : ∀ u ∈ Offset.unmeasured, offsetName u ≠ "invalid offset" := by decide
  obtain ⟨v, -, rfl⟩ := misread
  exact all u mem

/-- Where an offset is misread, riders see that on the calendar and nowhere else. -/
theorem text_reread_of_misread {m : Moment} (misread : m.offset.Misread) :
    m.reread.text = m.text ↔ m.onCalendar = false := by
  have mem : m.reread.offset ∈ Offset.unmeasured := misread.reread_mem
  have covered : m.reread.onCalendar = m.onCalendar := rfl
  rw [text_eq_iff, face_of_clockOffset?_eq_none (clockOffset?_eq_none_of_unmeasured mem),
    face_of_clockOffset?_eq_none (clockOffset?_eq_none_of_misread misread), covered]
  -- Off the calendar both are bare numbers; on it the names of the offsets differ.
  cases m.onCalendar with
  | false => exact iff_of_true rfl rfl
  | true =>
    have names := offsetName_ne_of_misread misread mem
    simp [names]

/-- What is seen of a moment in the one that comes back: the instant and the word of the offset
always, the offset with its minutes or its kind unless it is misread, and the text unless it is
misread on the calendar. -/
structure SeenIn (m back : Moment) : Prop where
  instant : back.instant = m.instant
  word : back.offset.toWord = m.offset.toWord
  offset : back.offset = m.offset ↔ ¬ m.offset.Misread
  minutes : back.offset.minutes? = m.offset.minutes? ↔ ¬ m.offset.Misread
  kind : (∀ u ∈ Offset.unmeasured, back.offset = u ↔ m.offset = u) ↔ ¬ m.offset.Misread
  text : back.text = m.text ↔ ¬ (m.offset.Misread ∧ m.onCalendar = true)

theorem reread_of_genuine {m : Moment} (genuine : m.offset.Genuine) : m.reread = m := by
  cases m
  exact congrArg (Moment.mk _) genuine

/-- Of a moment with a misread offset, the instant and the word come back and the minutes do not. -/
theorem seenIn_of_misread {m : Moment} (misread : m.offset.Misread) : m.SeenIn m.reread := by
  have mem : m.reread.offset ∈ Offset.unmeasured := misread.reread_mem
  have differs : m.reread.offset ≠ m.offset := fun same => misread.not_mem (same ▸ mem)
  have minutes : m.reread.offset.minutes? ≠ m.offset.minutes? := by
    rw [Offset.mem_unmeasured_iff.1 mem]
    exact fun same => misread.not_mem (Offset.mem_unmeasured_iff.2 same.symm)
  -- What tells the two apart is the question for the very offset that comes back.
  have kind : ¬ ∀ u ∈ Offset.unmeasured, m.reread.offset = u ↔ m.offset = u := fun same =>
    differs ((same m.reread.offset mem).1 rfl).symm
  exact {
    instant := rfl
    word := m.agrees_reread.offset.symm
    offset := iff_of_false differs (not_not_intro misread)
    minutes := iff_of_false minutes (not_not_intro misread)
    kind := iff_of_false kind (not_not_intro misread)
    text := by simp [text_reread_of_misread misread, misread] }

/-- In itself, everything of a moment is seen. -/
theorem seenIn_self {m : Moment} (clear : ¬ m.offset.Misread) : m.SeenIn m where
  instant := rfl
  word := rfl
  offset := iff_of_true rfl clear
  minutes := iff_of_true rfl clear
  kind := iff_of_true (fun _ _ => Iff.rfl) clear
  text := iff_of_true rfl fun both => clear both.1

/-- Whatever its offset is, a moment comes back as far as `SeenIn` says. -/
theorem seenIn_reread (m : Moment) : m.SeenIn m.reread := by
  by_cases misread : m.offset.Misread
  · exact seenIn_of_misread misread
  · rw [reread_of_genuine (Offset.genuine_iff.2 misread)]
    exact seenIn_self misread

/-- The text of a moment is read as its value is. -/
theorem ofText_text (now : Stamp) (m : Moment) :
    Document.ofText now m.toJson.text = Except.ok m.reread := by
  have plain : m.toJson.Plain Json.Source.depthLimit := m.plain _
  have accepted := m.accepts_reread .streamed
  show (reader.document (Json.scan m.toJson.text).source (Json.scan m.toJson.text).ended) = _
  rw [Json.scan_text plain, Json.Reader.document, accepted]
  rfl

/-- Every moment that is written, as a value or as a text, is read again, as one that keeps instant
and word, and the rest unless the offset is misread. An offset comes back from its word unless it is
misread, and a word from its offset always. -/
theorem offset_comes_back (now : Stamp) :
    (∀ m : Moment, ∃ back, Document.ofJson now m.toJson = .ok back ∧
      Document.ofText now m.toJson.text = .ok back ∧ m.SeenIn back) ∧
    (∀ o : Offset, Offset.ofWord o.toWord = o ↔ ¬ o.Misread) ∧
    ∀ w : Int32, (Offset.ofWord w).toWord = w := by
  refine ⟨fun m => ?_, fun o => Offset.genuine_iff, Offset.toWord_ofWord⟩
  exact ⟨m.reread, m.accepts_reread .inMemory, ofText_text now m, m.seenIn_reread⟩

/-! ## Minutes with the word of the place -/

def strayed : Moment := ⟨0, .minutes Offset.locationWord⟩

/-- The offset with the fewest minutes comes back as that of the location. -/
theorem strayed_comes_back :
    Document.ofJson ⟨0, 0⟩ strayed.toJson = .ok (⟨0, .location⟩ : Moment) ∧
      Offset.ofWord strayed.offset.toWord ≠ strayed.offset ∧
      strayed.text = "1970-01-01 00:00 UTC (invalid offset)" ∧
      text ⟨0, .location⟩ = "1970-01-01 00:00 UTC (location)" :=
  ⟨rfl, by decide, rfl, rfl⟩

end Moment

end Itinerary.Time
