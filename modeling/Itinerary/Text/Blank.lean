/-!
# Blank characters

White space as Unicode's property White_Space has it: the five ASCII controls from tab to carriage
return, the space, the next-line control and the sixteen wide or special spaces. Trimming and
cutting at the first blank are functions on lists of characters, and texts are trimmed through
them. `trim_of_blank` and `trimEnd_append_visible` are the two ends of the rule: a text of blanks
alone trims to nothing, and nothing is cut behind a visible character.
-/

namespace Itinerary.Text

/-- White space in Unicode's sense. -/
def isBlank (c : Char) : Bool :=
  let n := c.toNat
  (0x09 ≤ n && n ≤ 0x0d) || n = 0x20 || n = 0x85 || n = 0xa0 || n = 0x1680 ||
  (0x2000 ≤ n && n ≤ 0x200a) || n = 0x2028 || n = 0x2029 || n = 0x202f || n = 0x205f || n = 0x3000

/-- Drops the blanks at the end. -/
def trimEnd : List Char → List Char
  | [] => []
  | c :: rest =>
    match trimEnd rest with
    | [] => if isBlank c then [] else [c]
    | kept => c :: kept

/-- Drops the blanks at both ends. -/
def trimChars (cs : List Char) : List Char :=
  trimEnd (cs.dropWhile isBlank)

/-- The text without the blanks at its two ends. -/
def trim (s : String) : String :=
  String.ofList (trimChars s.toList)

/-- Cuts at the first blank: what stands before it and what stands after it. -/
def cutAtBlank : List Char → Option (List Char × List Char)
  | [] => none
  | c :: rest =>
    if isBlank c then some ([], rest)
    else (cutAtBlank rest).map fun (before, after) => (c :: before, after)

/-- A text with nothing but blanks in it. -/
def isBlankText (s : String) : Bool :=
  s.toList.all isBlank

theorem trimEnd_of_blank {cs : List Char} (h : ∀ c ∈ cs, isBlank c) : trimEnd cs = [] := by
  induction cs with
  | nil => rfl
  | cons c rest ih =>
    have hc : isBlank c := h c (by simp)
    have hr : trimEnd rest = [] := ih fun d hd => h d (by simp [hd])
    simp [trimEnd, hr, hc]

/-- A text of blanks alone trims to nothing. -/
theorem trim_of_blank {cs : List Char} (h : ∀ c ∈ cs, isBlank c) : trimChars cs = [] := by
  refine trimEnd_of_blank fun c hc => ?_
  exact h c ((List.dropWhile_sublist _).subset hc)

/-- A list that ends in a visible character keeps its end. -/
theorem trimEnd_append_visible (cs : List Char) {c : Char} (h : ¬ isBlank c) :
    trimEnd (cs ++ [c]) = cs ++ [c] := by
  induction cs with
  | nil => simp [trimEnd, h]
  | cons d rest ih =>
    rw [List.cons_append, trimEnd, ih]
    cases rest <;> simp

end Itinerary.Text
