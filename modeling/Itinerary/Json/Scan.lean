import Itinerary.Json.Source
import Itinerary.Text.Hex
import Itinerary.Text.Utf8

/-!
# Scanning JSON texts

`scan` follows a text and says what it holds: one value and whether anything but blanks comes after
it. Nothing here fails; what is wrong stays as a mark in the `Source`. Each step of a text consumes
characters (`TextStep.shrinks`), and the nested values are scanned with the length of the text as
fuel, which every value, item and field uses up more slowly than the characters run out.

A number with a fraction or an exponent is its digits as one whole number, of which as many are
kept as fit a 64-bit word, scaled by one power of ten.
-/

namespace Itinerary.Json

/-- The four blanks of JSON. -/
def isGap (c : Char) : Bool :=
  c = ' ' || c = '\n' || c = '\t' || c = '\r'

/-- Skips blanks. -/
def skipGaps (cs : List Char) : List Char := cs.dropWhile isGap

/-- Four hexadecimal digits. -/
def hex4? : List Char → Option (Nat × List Char)
  | a :: b :: c :: d :: rest =>
    match Text.Hex.value? a, Text.Hex.value? b, Text.Hex.value? c, Text.Hex.value? d with
    | some w, some x, some y, some z => some (((w * 16 + x) * 16 + y) * 16 + z, rest)
    | _, _, _, _ => none
  | _ => none

theorem hex4?_length {cs rest : List Char} {n : Nat} (h : hex4? cs = some (n, rest)) :
    rest.length < cs.length := by
  match cs with
  | [] | [_] | [_, _] | [_, _, _] => simp [hex4?] at h
  | a :: b :: c :: d :: more =>
    simp only [hex4?] at h
    split at h
    · simp only [Option.some.injEq, Prod.mk.injEq] at h
      rw [← h.2]
      simp only [List.length_cons]
      omega
    · contradiction

/-- One step through the inside of a text. -/
inductive TextStep where
  /-- The closing quote. -/
  | done (rest : List Char)
  /-- One character. -/
  | char (c : Char) (rest : List Char)
  /-- Half a surrogate pair, which stands for no character. -/
  | half (rest : List Char)
  /-- No JSON text goes on like this. -/
  | broken

/-- The character after an escape with four digits, the second half of a pair included. -/
def unicodeStep (unit : Nat) (rest : List Char) : TextStep :=
  if 0xDC00 ≤ unit ∧ unit ≤ 0xDFFF then .half rest
  else if 0xD800 ≤ unit ∧ unit ≤ 0xDBFF then
    match rest with
    | '\\' :: 'u' :: more =>
      match hex4? more with
      | some (low, rest') =>
        if 0xDC00 ≤ low ∧ low ≤ 0xDFFF then
          .char (Char.ofNat (0x10000 + (unit - 0xD800) * 0x400 + (low - 0xDC00))) rest'
        else .half rest
      | none => .half rest
    | _ => .half rest
  else .char (Char.ofNat unit) rest

/-- The character that a letter after a backslash stands for. -/
def shortEscape? (c : Char) : Option Char :=
  if c = '"' ∨ c = '\\' ∨ c = '/' then some c
  else if c = 'b' then some '\x08'
  else if c = 'f' then some '\x0c'
  else if c = 'n' then some '\n'
  else if c = 'r' then some '\r'
  else if c = 't' then some '\t'
  else none

/-- What follows inside a text. -/
def textStep : List Char → TextStep
  | [] => .broken
  | c :: rest =>
    if c = '"' then .done rest
    else if c = '\\' then
      match rest with
      | [] => .broken
      | e :: more =>
        if e = 'u' then
          match hex4? more with
          | some (unit, rest') => unicodeStep unit rest'
          | none => .broken
        else
          match shortEscape? e with
          | some d => .char d more
          | none => .broken
    else if c.toNat < 0x20 then .broken
    else .char c rest

/-- What is left after a step, if anything is. -/
def TextStep.rest? : TextStep → Option (List Char)
  | .done rest => some rest
  | .char _ rest => some rest
  | .half rest => some rest
  | .broken => none

/-- No step of an escape gives back more characters than there were: what `scanText` goes on with is
shorter each time. -/
theorem unicodeStep_shrinks {unit : Nat} {cs rest : List Char}
    (h : (unicodeStep unit cs).rest? = some rest) : rest.length ≤ cs.length := by
  unfold unicodeStep at h
  split at h
  · simp_all [TextStep.rest?]
  split at h
  · split at h
    · rename_i more
      split at h
      · rename_i low rest' hlow
        have := hex4?_length hlow
        split at h <;> simp_all [TextStep.rest?]
        omega
      · simp_all [TextStep.rest?]
    · simp_all [TextStep.rest?]
  · simp_all [TextStep.rest?]

/-- Every step of a text consumes characters. -/
theorem TextStep.shrinks {cs rest : List Char} (h : (textStep cs).rest? = some rest) :
    rest.length < cs.length := by
  match cs with
  | [] => simp [textStep, TextStep.rest?] at h
  | c :: more =>
    simp only [textStep] at h
    split at h
    · simp only [TextStep.rest?, Option.some.injEq] at h
      subst h
      exact Nat.lt_succ_self _
    split at h
    · match more, h with
      | [], h => simp [TextStep.rest?] at h
      | e :: more', h =>
        simp only at h
        split at h
        · split at h
          · rename_i unit rest' hu
            have := hex4?_length hu
            have := unicodeStep_shrinks h
            simp only [List.length_cons]
            omega
          · simp [TextStep.rest?] at h
        · split at h
          · simp only [TextStep.rest?, Option.some.injEq] at h
            subst h
            simp only [List.length_cons]
            omega
          · simp [TextStep.rest?] at h
    split at h
    · simp [TextStep.rest?] at h
    · simp only [TextStep.rest?, Option.some.injEq] at h
      subst h
      exact Nat.lt_succ_self _

/-- The inside of a text up to its closing quote. The text is absent when it holds half a surrogate
pair, and there is no answer when the text does not end. -/
def scanText (cs : List Char) : Option (Option (List Char) × List Char) :=
  match h : textStep cs with
  | .broken => none
  | .done rest => some (some [], rest)
  | .char c rest =>
    have : rest.length < cs.length := TextStep.shrinks (by rw [h]; rfl)
    (scanText rest).map fun (text, after) => (text.map (c :: ·), after)
  | .half rest =>
    have : rest.length < cs.length := TextStep.shrinks (by rw [h]; rfl)
    (scanText rest).map fun (_, after) => (none, after)
termination_by cs.length

/-- The greatest number of a 64-bit word. -/
def wordMax : Nat := UInt64.size - 1

/-- The number that digits stand for. -/
def digitsValue (ds : List Char) : Nat :=
  ds.foldl (fun n d => n * 10 + (d.toNat - 48)) 0

/-- Reads digits into a 64-bit word until the next one does not fit: the word, how many digits were
used, and how many were left out. -/
def takeWord : Nat → List Char → Nat × Nat × Nat
  | word, [] => (word, 0, 0)
  | word, d :: rest =>
    let next := word * 10 + (d.toNat - 48)
    if wordMax < next then (word, 0, rest.length + 1)
    else
      let (final, used, dropped) := takeWord next rest
      (final, used + 1, dropped)

/-- The power of ten as a float. -/
def pow10 (e : Nat) : Float := Float.ofScientific 1 false e

/-- The float `x * 10 ^ e`, by one multiplication or division for every 308 powers. There is none
beyond the greatest float. -/
def scaleBy : Nat → Float → Int → Option Float
  | 0, _, _ => some 0.0
  | fuel + 1, x, e =>
    if e.natAbs ≤ 308 then
      if 0 ≤ e then
        let y := x * pow10 e.natAbs
        if y.isInf then none else some y
      else some (x / pow10 e.natAbs)
    else if x == 0.0 then some x
    else if 0 ≤ e then none
    else scaleBy fuel (x / pow10 308) (e + 308)

/-- The exponent as it is used: beyond the range of a 32-bit word it only counts as huge. -/
def cappedExponent (start : Int) (negative : Bool) (ds : List Char) : Option Int :=
  let e := digitsValue ds
  if Int32.maxValue.toInt < e then none
  else
    let sum := if negative then start - e else start + e
    some (max Int32.minValue.toInt (min Int32.maxValue.toInt sum))

/-- A number with a sign, digits before the point, digits behind it and an exponent. -/
def numberSource (negative : Bool) (whole fraction : List Char)
    (exponent : Option (Bool × List Char)) : Source :=
  let (word, _, droppedWhole) := takeWord 0 whole
  if droppedWhole = 0 ∧ fraction = [] ∧ exponent = none
      ∧ (if negative then word ≠ 0 ∧ Int64.minValue.toInt ≤ -(word : Int) else true) then
    .int (if negative then -(word : Int) else word)
  else
    let (word, usedFraction, _) := takeWord word fraction
    let start : Int := (droppedWhole : Int) - usedFraction
    let x := Float.ofNat word
    let signed (y : Float) : Source := .float (if negative then -y else y)
    match exponent with
    | none => match scaleBy 8 x start with
      | some y => signed y
      | none => .unreadable
    | some (expNegative, ds) =>
      match cappedExponent start expNegative ds with
      | some e => match scaleBy 8 x e with
        | some y => signed y
        | none => .unreadable
      | none => if word = 0 ∨ expNegative then signed 0.0 else .unreadable

/-- The digits of an exponent with its sign, after the letter. -/
def scanExponent (cs : List Char) : Option ((Bool × List Char) × List Char) :=
  let (negative, rest) := match cs with
    | '+' :: rest => (false, rest)
    | '-' :: rest => (true, rest)
    | _ => (false, cs)
  match rest.takeWhile Char.isDigit with
  | [] => none
  | ds => some ((negative, ds), rest.dropWhile Char.isDigit)

/-- The rest of a number after its whole digits. -/
def scanFraction (negative : Bool) (whole cs : List Char) : Source × Option (List Char) :=
  let withExponent (fraction cs : List Char) : Source × Option (List Char) :=
    match cs with
    | c :: rest =>
      if c = 'e' ∨ c = 'E' then
        match scanExponent rest with
        | some (exponent, rest') =>
          (numberSource negative whole fraction (some exponent), some rest')
        | none => (.broken, none)
      else (numberSource negative whole fraction none, some cs)
    | [] => (numberSource negative whole fraction none, some cs)
  match cs with
  | '.' :: rest =>
    match rest.takeWhile Char.isDigit with
    | [] => (.broken, none)
    | fraction => withExponent fraction (rest.dropWhile Char.isDigit)
  | _ => withExponent [] cs

/-- A number after its sign. A zero is followed by no other digit. -/
def scanWhole (negative : Bool) (cs : List Char) : Source × Option (List Char) :=
  match cs.takeWhile Char.isDigit with
  | [] => (.broken, none)
  | '0' :: _ :: _ => (.broken, none)
  | whole => scanFraction negative whole (cs.dropWhile Char.isDigit)

/-- A number. -/
def scanNumber (cs : List Char) : Source × Option (List Char) :=
  match cs with
  | '-' :: rest => scanWhole true rest
  | _ => scanWhole false cs

mutual

/-- The value at the head of the text, and what follows it unless it is broken. -/
def scanValue : Nat → List Char → Source × Option (List Char)
  | 0, _ => (.broken, none)
  | fuel + 1, cs =>
    match skipGaps cs with
    | 'n' :: 'u' :: 'l' :: 'l' :: rest => (.null, some rest)
    | 't' :: 'r' :: 'u' :: 'e' :: rest => (.bool true, some rest)
    | 'f' :: 'a' :: 'l' :: 's' :: 'e' :: rest => (.bool false, some rest)
    | '"' :: rest =>
      match scanText rest with
      | none => (.broken, none)
      | some (some text, after) => (.str (String.ofList text), some after)
      | some (none, after) => (.unreadable, some after)
    | '[' :: rest =>
      match skipGaps rest with
      | ']' :: after => (.arr [] true, some after)
      | inside =>
        let (items, closed, after) := scanItems fuel inside
        (.arr items closed, after)
    | '{' :: rest =>
      match skipGaps rest with
      | '}' :: after => (.obj [] true, some after)
      | inside =>
        let (fields, closed, after) := scanFields fuel inside
        (.obj fields closed, after)
    | inside => scanNumber inside

/-- The items of a list that has at least one more. -/
def scanItems : Nat → List Char → List Source × Bool × Option (List Char)
  | 0, _ => ([], false, none)
  | fuel + 1, cs =>
    match scanValue fuel cs with
    | (item, none) => ([item], false, none)
    | (item, some after) =>
      match skipGaps after with
      | ']' :: rest => ([item], true, some rest)
      | ',' :: rest =>
        match skipGaps rest with
        | ']' :: _ => ([item], false, none)
        | more =>
          let (items, closed, after) := scanItems fuel more
          (item :: items, closed, after)
      | _ => ([item], false, none)

/-- The fields of an object that has at least one more. -/
def scanFields : Nat → List Char → List (Option String × Source) × Bool × Option (List Char)
  | 0, _ => ([], false, none)
  | fuel + 1, cs =>
    match cs with
    | '"' :: inside =>
      match scanText inside with
      | none => ([], false, none)
      | some (text, after) =>
        let name := text.map String.ofList
        match skipGaps after with
        | ':' :: rest =>
          match scanValue fuel rest with
          | (value, none) => ([(name, value)], false, none)
          | (value, some after) =>
            match skipGaps after with
            | '}' :: rest => ([(name, value)], true, some rest)
            | ',' :: rest =>
              let (fields, closed, after) := scanFields fuel (skipGaps rest)
              ((name, value) :: fields, closed, after)
            | _ => ([(name, value)], false, none)
        | _ => ([(name, .broken)], false, none)
    | _ => ([], false, none)

end

/-- A text as a JSON document. -/
structure Document where
  source : Source
  /-- Whether nothing but blanks follows the value. -/
  ended : Bool

/-- What a text says. -/
def scan (text : String) : Document :=
  let cs := text.toList
  match scanValue (2 * cs.length + 2) cs with
  | (source, none) => ⟨source.within Source.depthLimit, false⟩
  | (source, some rest) => ⟨source.within Source.depthLimit, (skipGaps rest).isEmpty⟩

/-- What some bytes say, with a mark in the place of what is no UTF-8. -/
def scanMarking (mark : Char) (bytes : List UInt8) : Document :=
  scan (String.ofList (Text.Utf8.decodeMarking mark bytes))

/-- What some bytes say. What is no UTF-8 has no place but inside a text, which then stands for
nothing; it shows where two readings with different marks differ. No character of the grammar is
such a mark, so they differ nowhere else. -/
def scanBytes (bytes : List UInt8) : Document :=
  match String.fromUTF8? ⟨bytes.toArray⟩ with
  | some text => scan text
  | none =>
    let document := scanMarking '\uFFFD' bytes
    ⟨document.source.agreed (scanMarking '\uFFFE' bytes).source, document.ended⟩

end Itinerary.Json
