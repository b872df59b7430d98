import Itinerary.Text.Blank
import Mathlib.Data.List.Basic

/-!
# Texts as lists of bytes

The bytes of a text in a list are those of the text (`Text.ofBytes_toList`), and they are read as
that text (`Text.fromUTF8?_toUTF8`). A text in which nothing is blank has nothing to trim
(`Text.trim_eq_of_visible`), and of one with blanks around it nothing but these is trimmed
(`Text.trim_surrounded`). Nothing is left of a text just if all of it is blank
(`Text.trimChars_eq_nil_iff`).
-/

namespace Itinerary.Text

/-- What a list of bytes is made of, from some place on. -/
theorem toList_loop (bytes : ByteArray) (i : Nat) (taken : List UInt8) :
    ByteArray.toList.loop bytes i taken = taken.reverse ++ bytes.data.toList.drop i := by
  fun_induction ByteArray.toList.loop bytes i taken with
  | case1 i taken inside ih =>
    have size : i < bytes.data.toList.length := inside
    have byte : bytes.get! i = bytes.data.toList[i] := by
      rw [Array.getElem_toList]
      exact getElem!_pos bytes.data i inside
    rw [ih, List.drop_eq_getElem_cons size, List.reverse_cons, List.append_assoc, byte]
    rfl
  | case2 i taken outside =>
    have size : bytes.data.toList.length ≤ i := Nat.le_of_not_lt outside
    rw [List.drop_of_length_le size, List.append_nil]

/-- Bytes put into a list and back into an array. -/
theorem ofBytes_toList (bytes : ByteArray) : (⟨bytes.toList.toArray⟩ : ByteArray) = bytes := by
  rw [ByteArray.toList, toList_loop]
  rfl

/-- A text is read back from its bytes. -/
theorem fromUTF8?_toUTF8 (s : String) : String.fromUTF8? s.toUTF8 = some s := by
  have valid : s.toUTF8.IsValidUTF8 := s.isValidUTF8
  rw [String.fromUTF8?, dif_pos valid]
  rfl

/-- Nothing is cut behind a visible character. -/
theorem trimEnd_eq_of_visible {cs : List Char} (visible : ∀ c ∈ cs, isBlank c = false) :
    trimEnd cs = cs := by
  induction cs with
  | nil => rfl
  | cons c cs ih =>
    obtain ⟨first, others⟩ := List.forall_mem_cons.1 visible
    rw [trimEnd, ih others]
    cases cs with
    | nil => simp only [first, Bool.false_eq_true, if_false]
    | cons d cs => rfl

/-- Nothing is left just where there were blanks alone. -/
theorem trimEnd_eq_nil_iff {cs : List Char} : trimEnd cs = [] ↔ ∀ c ∈ cs, isBlank c = true := by
  refine ⟨fun nothing => ?_, trimEnd_of_blank⟩
  induction cs with
  | nil => exact fun c mem => absurd mem List.not_mem_nil
  | cons c cs ih =>
    rw [trimEnd] at nothing
    split at nothing
    · rename_i empty
      split at nothing
      · rename_i blank
        exact List.forall_mem_cons.2 ⟨blank, ih empty⟩
      · cases nothing
    · cases nothing

/-- Trimming at both ends leaves nothing just where there were blanks alone. -/
theorem trimChars_eq_nil_iff {cs : List Char} :
    trimChars cs = [] ↔ ∀ c ∈ cs, isBlank c = true := by
  rw [trimChars, trimEnd_eq_nil_iff]
  constructor
  · intro blank c mem
    rw [← List.takeWhile_append_dropWhile (p := isBlank) (l := cs)] at mem
    rcases List.mem_append.1 mem with front | back
    · exact List.all_eq_true.1 List.all_takeWhile c front
    · exact blank c back
  · intro blank c mem
    exact blank c ((List.dropWhile_sublist _).subset mem)

/-- Blanks behind everything else are dropped. -/
theorem trimEnd_append_of_blank (cs : List Char) {after : List Char}
    (blank : ∀ c ∈ after, isBlank c = true) : trimEnd (cs ++ after) = trimEnd cs := by
  induction cs with
  | nil => exact trimEnd_of_blank blank
  | cons c cs ih => rw [List.cons_append, trimEnd, ih, trimEnd]

/-- Blanks on both sides of a text in which nothing is blank are what is trimmed. -/
theorem trim_surrounded {before s after : String} (front : isBlankText before = true)
    (back : isBlankText after = true) (visible : ∀ c ∈ s.toList, isBlank c = false) :
    trim (before ++ s ++ after) = s := by
  have dropped : (before.toList ++ (s.toList ++ after.toList)).dropWhile isBlank =
      (s.toList ++ after.toList).dropWhile isBlank :=
    List.dropWhile_append_of_pos (List.all_eq_true.1 front)
  have blank := List.all_eq_true.1 back
  have kept : trimEnd ((s.toList ++ after.toList).dropWhile isBlank) = s.toList := by
    cases same : s.toList with
    | nil => exact trim_of_blank blank
    | cons c cs =>
      rw [same] at visible
      rw [List.cons_append, List.dropWhile_cons_of_neg (by simp [visible c]), ← List.cons_append,
        trimEnd_append_of_blank _ blank, trimEnd_eq_of_visible visible]
  rw [trim, trimChars, String.toList_append, String.toList_append, List.append_assoc, dropped, kept,
    String.ofList_toList]

/-- A text without blanks is trimmed. -/
theorem trim_eq_of_visible {s : String} (visible : ∀ c ∈ s.toList, isBlank c = false) :
    trim s = s := by
  have alone : trim ("" ++ s ++ "") = s := trim_surrounded rfl rfl visible
  rwa [String.empty_append, String.append_empty] at alone

end Itinerary.Text
