import Itinerary.Json.Printer
import Itinerary.Json.Scan
import Itinerary.Proofs.Decimal.Digits
import Itinerary.Proofs.Text.Bytes

/-!
# Scanning what was printed

A value without floats, whose whole numbers fit 64-bit words and whose lists and objects are nested
no deeper than is read, is `Plain`. The compact text of a plain value, scanned, is that value again
and nothing behind it (`Json.scan_text`); the same holds for the bytes of the text
(`Json.scanBytes_text`).

Values are scanned from the front of a text. What follows a value in a printed text is the end, a
comma or a closing bracket or brace (`Json.Ends`), and none of these goes on with a number. Every
value is printed with at least as many characters as it takes fuel to scan it.

What is not said here: floats. Their digits are found by a search and read by one multiplication,
and that the two agree is a fact about rounding.
-/

namespace Itinerary.Json

/-! ## Texts -/

/-- A control character without a letter of its own is escaped by its number. -/
theorem hex4?_escape {c : Char} (control : c.toNat < 0x20) (rest : List Char) :
    hex4? ('0' :: '0' :: Text.Hex.digit (c.toNat / 16) :: Text.Hex.digit (c.toNat % 16) :: rest) =
      some (c.toNat, rest) := by
  have zero : Text.Hex.value? '0' = some 0 := by decide
  have high := Text.Hex.value?_digit (n := c.toNat / 16) (by omega)
  have low := Text.Hex.value?_digit (n := c.toNat % 16) (by omega)
  have whole : ((0 * 16 + 0) * 16 + c.toNat / 16) * 16 + c.toNat % 16 = c.toNat := by omega
  simp only [hex4?, zero, high, low, whole]

/-- The escape of a control character stands for that character. -/
theorem unicodeStep_control {n : Nat} (control : n < 0x20) (rest : List Char) :
    unicodeStep n rest = .char (Char.ofNat n) rest := by
  have noLow : ¬ (0xDC00 ≤ n ∧ n ≤ 0xDFFF) := by omega
  have noHigh : ¬ (0xD800 ≤ n ∧ n ≤ 0xDBFF) := by omega
  unfold unicodeStep
  rw [if_neg noLow, if_neg noHigh]

/-- After a backslash and the letter `u` come four digits. -/
theorem textStep_of_hex4? {cs rest : List Char} {unit : Nat} (h : hex4? cs = some (unit, rest)) :
    textStep ('\\' :: 'u' :: cs) = unicodeStep unit rest := by
  rw [textStep.eq_def]
  simp only [Char.reduceEq, if_false, if_true, h]

/-- Escaping is undone character by character. -/
theorem textStep_escape (c : Char) (rest : List Char) :
    textStep (escape c ++ rest) = .char c rest := by
  by_cases short : c ∈ ['"', '\\', '\n', '\r', '\t', '\x08', '\x0c']
  · simp only [List.mem_cons, List.not_mem_nil, or_false] at short
    rcases short with rfl | rfl | rfl | rfl | rfl | rfl | rfl <;> rfl
  simp only [List.mem_cons, List.not_mem_nil, or_false, not_or] at short
  obtain ⟨quote, slash, newline, back, tab, bell, feed⟩ := short
  rw [escape, if_neg quote, if_neg slash, if_neg newline, if_neg back, if_neg tab, if_neg bell,
    if_neg feed]
  by_cases control : c.toNat < 0x20
  · rw [if_pos control]
    simp only [List.cons_append, List.nil_append]
    rw [textStep_of_hex4? (hex4?_escape control rest), unicodeStep_control control,
      Char.ofNat_toNat]
  · rw [if_neg control]
    show textStep (c :: rest) = _
    rw [textStep.eq_def]
    simp only [quote, slash, control, if_false]

/-- A text ends at its closing quote. -/
theorem scanText_of_done {cs rest : List Char} (h : textStep cs = .done rest) :
    scanText cs = some (some [], rest) := by
  rw [scanText]
  split <;> simp_all

/-- A text goes on behind every character that is read. -/
theorem scanText_of_char {cs rest : List Char} {c : Char} (h : textStep cs = .char c rest) :
    scanText cs = (scanText rest).map fun (text, after) => (text.map (c :: ·), after) := by
  rw [scanText]
  split <;> simp_all

/-- The inside of a printed text is the text. -/
theorem scanText_flatMap_escape (cs rest : List Char) :
    scanText (cs.flatMap escape ++ '"' :: rest) = some (some cs, rest) := by
  induction cs with
  | nil => exact scanText_of_done rfl
  | cons c cs ih =>
    rw [List.flatMap_cons, List.append_assoc, scanText_of_char (textStep_escape c _), ih]
    rfl

/-! ## Numbers -/

/-- What may follow a value in a printed text. -/
inductive Ends : List Char → Prop
  | nil : Ends []
  | comma (rest : List Char) : Ends (',' :: rest)
  | bracket (rest : List Char) : Ends (']' :: rest)
  | brace (rest : List Char) : Ends ('}' :: rest)

/-- The digits of a number end where the number does. -/
theorem takeWhile_isDigit {ds rest : List Char} (digits : ∀ c ∈ ds, c.isDigit)
    (ends : Ends rest) : (ds ++ rest).takeWhile Char.isDigit = ds := by
  rw [List.takeWhile_append_of_pos digits]
  cases ends <;> simp

/-- What follows a number is left over. -/
theorem dropWhile_isDigit {ds rest : List Char} (digits : ∀ c ∈ ds, c.isDigit)
    (ends : Ends rest) : (ds ++ rest).dropWhile Char.isDigit = rest := by
  rw [List.dropWhile_append_of_pos digits]
  cases ends <;> simp

/-- Digits whose number fits a word are all taken. -/
theorem takeWord_of_le {ds : List Char} {n value : Nat}
    (h : ds.foldl (fun value d => value * 10 + (d.toNat - 48)) n = value) (fits : value ≤ wordMax) :
    takeWord n ds = (value, ds.length, 0) := by
  induction ds generalizing n with
  | nil =>
    obtain rfl : n = value := h
    rfl
  | cons d ds ih =>
    have next : n * 10 + (d.toNat - 48) ≤ value := by
      rw [← h]
      exact Decimal.le_foldl_digits ds _
    have inside : ¬ wordMax < n * 10 + (d.toNat - 48) := by omega
    simp only [takeWord, if_neg inside, ih h]
    rfl

/-- Digits without a point and an exponent are read as a whole number, as long as a machine word
holds it. -/
theorem numberSource_digits {n : Nat} {negative : Bool} (fits : n ≤ wordMax)
    (signed : negative = true → n ≠ 0 ∧ Int64.minValue.toInt ≤ -(n : Int)) :
    numberSource negative (Decimal.digits n) [] none =
      .int (if negative then -(n : Int) else n) := by
  unfold numberSource
  rw [takeWord_of_le (Decimal.foldl_digits n) fits]
  simp only [true_and]
  rw [if_pos]
  cases negative with
  | false => trivial
  | true => exact signed rfl

/-- A number that ends after its whole part has no fraction. -/
theorem scanFraction_of_ends {rest : List Char} (ends : Ends rest) (negative : Bool)
    (whole : List Char) :
    scanFraction negative whole rest = (numberSource negative whole [] none, some rest) := by
  cases ends <;> rfl

/-- A whole number is read back from its digits, whatever follows that is no part of a number. -/
theorem scanWhole_digits {n : Nat} {rest : List Char} {negative : Bool} (fits : n ≤ wordMax)
    (signed : negative = true → n ≠ 0 ∧ Int64.minValue.toInt ≤ -(n : Int)) (ends : Ends rest) :
    scanWhole negative (Decimal.digits n ++ rest) =
      (.int (if negative then -(n : Int) else n), some rest) := by
  have digits : ∀ c ∈ Decimal.digits n, c.isDigit := fun c => Decimal.isDigit_of_mem_digits
  rw [scanWhole.eq_def, takeWhile_isDigit digits ends, dropWhile_isDigit digits ends]
  split
  · rename_i none
    exact absurd none (Decimal.digits_ne_nil n)
  · rename_i zero
    exact absurd zero (Decimal.digits_ne_zero_cons_cons n _ _)
  · rw [scanFraction_of_ends ends, numberSource_digits fits signed]

theorem wordMax_eq : wordMax = 18446744073709551615 := by decide

theorem toInt_minValue : Int64.minValue.toInt = -9223372036854775808 := by decide

/-- A printed number is read up to its end. -/
theorem scanNumber_signed {i : Int} {rest : List Char} (low : Int64.minValue.toInt ≤ i)
    (high : i ≤ wordMax) (ends : Ends rest) :
    scanNumber (Decimal.signed i ++ rest) = (.int i, some rest) := by
  have least := toInt_minValue
  have most := wordMax_eq
  have fits : i.natAbs ≤ wordMax := by omega
  rw [Decimal.signed]
  split
  · rename_i negative
    have minus : -(i.natAbs : Int) = i := by omega
    have inRange : i.natAbs ≠ 0 ∧ Int64.minValue.toInt ≤ -(i.natAbs : Int) := by omega
    show scanWhole true (Decimal.digits i.natAbs ++ rest) = _
    rw [scanWhole_digits fits (fun _ => inRange) ends, if_pos rfl, minus]
  · rename_i positive
    have plus : (i.natAbs : Int) = i := by omega
    rw [scanNumber.eq_def]
    split
    · rename_i minus
      obtain ⟨d, ds, same, digit⟩ := Decimal.digits_eq_cons i.natAbs
      rw [same] at minus
      rw [(List.cons.inj minus).1] at digit
      exact absurd digit (by decide)
    · rw [scanWhole_digits fits (fun no => Bool.noConfusion no) ends, if_neg Bool.false_ne_true,
        plus]

/-! ## Values -/

mutual

/-- Whether a value holds no floats and no whole numbers beyond 64-bit words, and at most so many
lists and objects in one another. -/
def Plain (depth : Nat) : Json → Prop
  | .null => True
  | .bool _ => True
  | .int i => Int64.minValue.toInt ≤ i ∧ i ≤ wordMax
  | .float _ => False
  | .str _ => True
  | .arr items =>
    match depth with
    | 0 => False
    | depth + 1 => ItemsPlain depth items
  | .obj fields =>
    match depth with
    | 0 => False
    | depth + 1 => FieldsPlain depth fields

def ItemsPlain (depth : Nat) : List Json → Prop
  | [] => True
  | item :: rest => item.Plain depth ∧ ItemsPlain depth rest

def FieldsPlain (depth : Nat) : List (String × Json) → Prop
  | [] => True
  | (_, value) :: rest => value.Plain depth ∧ FieldsPlain depth rest

end

/-- A value that may be missing is as plain as what is written where it is there. -/
theorem plain_opt {α : Type} {write : α → Json} {o : Option α} {depth : Nat}
    (each : ∀ a ∈ o, (write a).Plain depth) : (opt write o).Plain depth := by
  cases o with
  | none => trivial
  | some a => exact each a rfl

theorem plain_int64 (w : Int64) (depth : Nat) : (Json.int w.toInt).Plain depth := by
  have high := Int64.toInt_le w
  have greatest : Int64.maxValue.toInt = 9223372036854775807 := by decide
  have most := wordMax_eq
  exact ⟨Int64.minValue_le_toInt w, by omega⟩

theorem plain_int32 (w : Int32) (depth : Nat) : (Json.int w.toInt).Plain depth := by
  rw [← Int32.toInt_toInt64]
  exact plain_int64 w.toInt64 depth

theorem plain_uint32 (n : UInt32) (depth : Nat) : (Json.int n.toNat).Plain depth := by
  have high := n.toNat_lt
  have least := toInt_minValue
  have most := wordMax_eq
  exact ⟨by omega, by omega⟩

mutual

/-- No part of a plain value is nested too deeply to be read. -/
theorem within_toSource {depth : Nat} : (j : Json) → j.Plain depth →
    j.toSource.within depth = j.toSource
  | .null, _ => rfl
  | .bool _, _ => rfl
  | .int _, _ => rfl
  | .float _, plain => plain.elim
  | .str _, _ => rfl
  | .arr items, plain => by
    cases depth with
    | zero => exact plain.elim
    | succ depth =>
      show Source.arr (Source.itemsWithin depth (itemSources items)) true = _
      rw [itemsWithin_itemSources items plain]
      rfl
  | .obj fields, plain => by
    cases depth with
    | zero => exact plain.elim
    | succ depth =>
      show Source.obj (Source.fieldsWithin depth (fieldSources fields)) true = _
      rw [fieldsWithin_fieldSources fields plain]
      rfl

/-- Items of a plain list are not nested too deep. -/
theorem itemsWithin_itemSources {depth : Nat} : (items : List Json) → ItemsPlain depth items →
    Source.itemsWithin depth (itemSources items) = itemSources items
  | [], _ => rfl
  | item :: rest, plain => by
    rw [itemSources, Source.itemsWithin, within_toSource item plain.1,
      itemsWithin_itemSources rest plain.2]

/-- Fields of a plain object are not nested too deep. -/
theorem fieldsWithin_fieldSources {depth : Nat} : (fields : List (String × Json)) →
    FieldsPlain depth fields → Source.fieldsWithin depth (fieldSources fields) = fieldSources fields
  | [], _ => rfl
  | (name, value) :: rest, plain => by
    rw [fieldSources, Source.fieldsWithin, within_toSource value plain.1,
      fieldsWithin_fieldSources rest plain.2]

end

/-! ## What a value starts with -/

/-- A character that is no gap is not skipped. -/
theorem skipGaps_of_visible {c : Char} (visible : isGap c = false) (cs : List Char) :
    skipGaps (c :: cs) = c :: cs := by
  rw [skipGaps, List.dropWhile_cons, visible]
  rfl

/-- What a printed value starts with: no blank and no end of a list. -/
inductive Opens : List Char → Prop
  | intro (c : Char) (cs : List Char) (visible : isGap c = false) (item : c ≠ ']') : Opens (c :: cs)

theorem Opens.skipGaps {cs : List Char} (opens : Opens cs) : skipGaps cs = cs := by
  obtain ⟨c, cs, visible, -⟩ := opens
  exact skipGaps_of_visible visible cs

theorem Opens.length_pos {cs : List Char} (opens : Opens cs) : 0 < cs.length := by
  obtain ⟨c, cs, -, -⟩ := opens
  exact Nat.succ_pos cs.length

/-- What follows a text does not change how it opens. -/
theorem Opens.append {cs : List Char} (opens : Opens cs) (rest : List Char) :
    Opens (cs ++ rest) := by
  obtain ⟨c, cs, visible, item⟩ := opens
  exact .intro c (cs ++ rest) visible item

/-- What starts a number starts no other value, ends no list and is no gap. -/
theorem numeral_visible {c : Char} (numeral : c = '-' ∨ c.isDigit) :
    isGap c = false ∧ c ≠ ']' ∧ c ≠ 'n' ∧ c ≠ 't' ∧ c ≠ 'f' ∧ c ≠ '"' ∧ c ≠ '[' ∧ c ≠ '{' := by
  rcases numeral with rfl | digit
  · decide
  · have no (d : Char) (other : d.isDigit = false) : c ≠ d := by
      rintro rfl
      rw [other] at digit
      contradiction
    refine ⟨?_, no _ (by decide), no _ (by decide), no _ (by decide), no _ (by decide),
      no _ (by decide), no _ (by decide), no _ (by decide)⟩
    rw [isGap, decide_eq_false (no ' ' (by decide)), decide_eq_false (no '\n' (by decide)),
      decide_eq_false (no '\t' (by decide)), decide_eq_false (no '\r' (by decide))]
    rfl

/-- A value that starts like a number is one. -/
theorem scanValue_of_numeral {c : Char} (numeral : c = '-' ∨ c.isDigit) (fuel : Nat)
    (cs : List Char) : scanValue (fuel + 1) (c :: cs) = scanNumber (c :: cs) := by
  obtain ⟨visible, -, n, t, f, quote, bracket, brace⟩ := numeral_visible numeral
  rw [scanValue.eq_def]
  simp only [skipGaps_of_visible visible]
  split <;> simp_all

/-- Every plain value opens with a visible character that does not end a list. -/
theorem opens_chars {depth : Nat} (j : Json) (plain : j.Plain depth) : Opens j.chars := by
  cases j with
  | null => exact .intro 'n' _ rfl (by decide)
  | bool b => cases b <;> exact .intro _ _ rfl (by decide)
  | int i =>
    obtain ⟨c, cs, same, numeral⟩ := Decimal.signed_eq_cons i
    obtain ⟨visible, item, -⟩ := numeral_visible numeral
    rw [chars, same]
    exact .intro c cs visible item
  | float _ => exact plain.elim
  | str s => exact .intro '"' _ rfl (by decide)
  | arr items => exact .intro '[' _ rfl (by decide)
  | obj fields => exact .intro '\x7b' _ rfl (by decide)

/-- A printed text in front of anything is that text. -/
theorem scanText_textChars (s : String) (rest : List Char) :
    ∃ inside, textChars s ++ rest = '"' :: inside ∧
      scanText inside = some (some s.toList, rest) := by
  refine ⟨s.toList.flatMap escape ++ '"' :: rest, ?_, scanText_flatMap_escape s.toList rest⟩
  show '"' :: ((s.toList.flatMap escape ++ ['"']) ++ rest) = _
  rw [List.append_assoc]
  rfl

/-- A text in quotes is read back, whatever follows. -/
theorem scanValue_textChars (s : String) (fuel : Nat) (rest : List Char) :
    scanValue (fuel + 1) (textChars s ++ rest) = (.str s, some rest) := by
  obtain ⟨inside, front, read⟩ := scanText_textChars s rest
  rw [front, scanValue.eq_def]
  simp only [skipGaps_of_visible (c := '"') rfl, read, String.ofList_toList]

/-! ## Lists and objects

Each step of the scanner as an equation: what it does once the value at the front is known. The
induction on the value then only puts these together.
-/

/-- A list with an item opens as that item does. -/
theorem opens_itemChars {depth : Nat} {item : Json} {more : List Json}
    (plain : ItemsPlain depth (item :: more)) : Opens (itemChars (item :: more)) := by
  cases more with
  | nil => exact (opens_chars item plain.1).append _
  | cons next more => exact (opens_chars item plain.1).append _

/-- Items are separated by commas. -/
theorem itemChars_cons_cons (item next : Json) (more : List Json) :
    itemChars (item :: next :: more) = item.chars ++ ',' :: itemChars (next :: more) := rfl

/-- The last field is followed by the closing brace. -/
theorem fieldChars_singleton (name : String) (value : Json) :
    fieldChars [(name, value)] = textChars name ++ ':' :: (value.chars ++ ['\x7d']) := by
  rw [fieldChars, List.append_assoc, List.cons_append]

/-- Fields are separated by commas. -/
theorem fieldChars_cons_cons (name : String) (value : Json) (next : String × Json)
    (more : List (String × Json)) :
    fieldChars ((name, value) :: next :: more) =
      textChars name ++ ':' :: (value.chars ++ ',' :: fieldChars (next :: more)) := by
  rw [← List.cons_append, ← List.append_assoc]
  rfl

/-- The fields of an object start with the quote of the first name. -/
theorem fieldChars_eq_cons (field : String × Json) (more : List (String × Json)) :
    ∃ cs, fieldChars (field :: more) = '"' :: cs := by
  cases more with
  | nil => exact ⟨_, rfl⟩
  | cons next more => exact ⟨_, rfl⟩

/-- A list that is opened has the items that are scanned behind the bracket. -/
theorem scanValue_of_scanItems {fuel : Nat} {cs : List Char} (opens : Opens cs) :
    scanValue (fuel + 1) ('[' :: cs) =
      let (items, closed, after) := scanItems fuel cs
      (.arr items closed, after) := by
  rw [scanValue.eq_def]
  simp only [skipGaps_of_visible (c := '[') rfl, opens.skipGaps]
  obtain ⟨c, cs, -, other⟩ := opens
  split
  · rename_i same
    exact absurd (List.cons.inj same).1 other
  · rfl

/-- A list with one more item, behind a comma. -/
theorem scanItems_of_scanValue {fuel : Nat} {cs after : List Char} {item : Source}
    (read : scanValue fuel cs = (item, some (',' :: after))) (opens : Opens after) :
    scanItems (fuel + 1) cs =
      let (items, closed, after) := scanItems fuel after
      (item :: items, closed, after) := by
  rw [scanItems.eq_def]
  simp only [read, skipGaps_of_visible (c := ',') rfl, opens.skipGaps]
  obtain ⟨c, cs, -, other⟩ := opens
  split
  · rename_i same
    exact absurd (List.cons.inj same).1 other
  · rfl

/-- A list ends behind an item that the closing bracket follows. -/
theorem scanItems_of_last {fuel : Nat} {cs after : List Char} {item : Source}
    (read : scanValue fuel cs = (item, some (']' :: after))) :
    scanItems (fuel + 1) cs = ([item], true, some after) := by
  rw [scanItems.eq_def]
  simp only [read]
  rfl

/-- An object with one more field, behind a comma. -/
theorem scanFields_of_scanValue {fuel : Nat} {cs after : List Char} {value : Source}
    (name : String) (read : scanValue fuel cs = (value, some (',' :: '"' :: after))) :
    scanFields (fuel + 1) (textChars name ++ ':' :: cs) =
      let (fields, closed, after) := scanFields fuel ('"' :: after)
      ((some name, value) :: fields, closed, after) := by
  obtain ⟨inside, front, named⟩ := scanText_textChars name (':' :: cs)
  rw [front, scanFields.eq_def]
  simp only [named, skipGaps_of_visible (c := ':') rfl, read,
    skipGaps_of_visible (c := ',') rfl, skipGaps_of_visible (c := '"') rfl, Option.map_some,
    String.ofList_toList]

/-- An object ends behind a field that the closing brace follows. -/
theorem scanFields_of_last {fuel : Nat} {cs after : List Char} {value : Source} (name : String)
    (read : scanValue fuel cs = (value, some ('\x7d' :: after))) :
    scanFields (fuel + 1) (textChars name ++ ':' :: cs) =
      ([(some name, value)], true, some after) := by
  obtain ⟨inside, front, named⟩ := scanText_textChars name (':' :: cs)
  rw [front, scanFields.eq_def]
  simp only [named, skipGaps_of_visible (c := ':') rfl, read,
    skipGaps_of_visible (c := '\x7d') rfl, Option.map_some, String.ofList_toList]

/-- An object that is opened has the fields that are scanned behind the brace. -/
theorem scanValue_of_scanFields {fuel : Nat} (cs : List Char) :
    scanValue (fuel + 1) ('\x7b' :: '"' :: cs) =
      let (fields, closed, after) := scanFields fuel ('"' :: cs)
      (.obj fields closed, after) := rfl

/-- Fuel that suffices for the characters of a value is not used up before the value is read. -/
theorem fuel_pos {depth fuel : Nat} {j : Json} (plain : j.Plain depth)
    (enough : j.chars.length ≤ fuel) : fuel ≠ 0 := by
  have := (opens_chars j plain).length_pos
  omega

mutual

/-- A printed plain value is read up to its end. -/
theorem scanValue_chars {depth : Nat} : (j : Json) → j.Plain depth → (rest : List Char) →
    Ends rest → (fuel : Nat) → j.chars.length ≤ fuel →
    scanValue fuel (j.chars ++ rest) = (j.toSource, some rest)
  | _, plain, _, _, 0, enough => absurd rfl (fuel_pos plain enough)
  | .null, _, _, _, _ + 1, _ => rfl
  | .bool true, _, _, _, _ + 1, _ => rfl
  | .bool false, _, _, _, _ + 1, _ => rfl
  | .int i, plain, rest, ends, fuel + 1, _ => by
    obtain ⟨c, cs, same, numeral⟩ := Decimal.signed_eq_cons i
    have read := scanNumber_signed plain.1 plain.2 ends
    rw [same, List.cons_append] at read
    rw [chars, same, List.cons_append, scanValue_of_numeral numeral, read]
    rfl
  | .float _, plain, _, _, _, _ => plain.elim
  | .str s, _, rest, _, fuel + 1, _ => scanValue_textChars s fuel rest
  | .arr [], _, _, _, _ + 1, _ => rfl
  | .arr (item :: more), plain, rest, _, fuel + 1, enough => by
    cases depth with
    | zero => exact plain.elim
    | succ depth =>
      show scanValue (fuel + 1) ('[' :: (itemChars (item :: more) ++ rest)) = _
      rw [scanValue_of_scanItems ((opens_itemChars plain).append rest),
        scanItems_itemChars item more plain rest fuel (Nat.le_of_succ_le_succ enough)]
      rfl
  | .obj [], _, _, _, _ + 1, _ => rfl
  | .obj ((name, value) :: more), plain, rest, _, fuel + 1, enough => by
    cases depth with
    | zero => exact plain.elim
    | succ depth =>
      have read := scanFields_fieldChars name value more plain rest fuel
        (Nat.le_of_succ_le_succ enough)
      obtain ⟨cs, front⟩ := fieldChars_eq_cons (name, value) more
      show scanValue (fuel + 1) ('\x7b' :: (fieldChars ((name, value) :: more) ++ rest)) = _
      rw [front, List.cons_append] at read ⊢
      rw [scanValue_of_scanFields, read]
      rfl

/-- The printed items of a list are read up to the end of the list. -/
theorem scanItems_itemChars {depth : Nat} : (item : Json) → (more : List Json) →
    ItemsPlain depth (item :: more) → (rest : List Char) → (fuel : Nat) →
    (itemChars (item :: more)).length ≤ fuel →
    scanItems fuel (itemChars (item :: more) ++ rest) =
      (itemSources (item :: more), true, some rest)
  | _, _, plain, _, 0, enough =>
    absurd enough (Nat.not_le_of_lt (opens_itemChars plain).length_pos)
  | item, [], plain, rest, fuel + 1, enough => by
    rw [itemChars, List.length_append] at enough
    have read := scanValue_chars item plain.1 (']' :: rest) (.bracket rest) fuel
      (Nat.le_of_succ_le_succ enough)
    rw [itemChars, List.append_assoc]
    exact scanItems_of_last read
  | item, next :: more, plain, rest, fuel + 1, enough => by
    rw [itemChars_cons_cons, List.length_append, List.length_cons] at enough
    have first := scanValue_chars item plain.1 (',' :: (itemChars (next :: more) ++ rest))
      (.comma _) fuel (by omega)
    have others := scanItems_itemChars next more plain.2 rest fuel (by omega)
    rw [itemChars_cons_cons, List.append_assoc, List.cons_append,
      scanItems_of_scanValue first ((opens_itemChars plain.2).append rest), others]
    rfl

/-- The printed fields of an object are read up to the end of the object. -/
theorem scanFields_fieldChars {depth : Nat} : (name : String) → (value : Json) →
    (more : List (String × Json)) → FieldsPlain depth ((name, value) :: more) →
    (rest : List Char) → (fuel : Nat) →
    (fieldChars ((name, value) :: more)).length ≤ fuel →
    scanFields fuel (fieldChars ((name, value) :: more) ++ rest) =
      (fieldSources ((name, value) :: more), true, some rest)
  | name, value, more, _, _, 0, enough => by
    obtain ⟨cs, front⟩ := fieldChars_eq_cons (name, value) more
    rw [front] at enough
    exact absurd enough (Nat.not_succ_le_zero _)
  | name, value, [], plain, rest, fuel + 1, enough => by
    rw [fieldChars_singleton, List.length_append, List.length_cons, List.length_append] at enough
    have read := scanValue_chars value plain.1 ('\x7d' :: rest) (.brace rest) fuel (by omega)
    rw [fieldChars_singleton, List.append_assoc, List.cons_append, List.append_assoc]
    exact scanFields_of_last name read
  | name, value, (next, item) :: more, plain, rest, fuel + 1, enough => by
    rw [fieldChars_cons_cons, List.length_append, List.length_cons, List.length_append,
      List.length_cons] at enough
    have first := scanValue_chars value plain.1 (',' :: (fieldChars ((next, item) :: more) ++ rest))
      (.comma _) fuel (by omega)
    have others := scanFields_fieldChars next item more plain.2 rest fuel (by omega)
    obtain ⟨cs, front⟩ := fieldChars_eq_cons (next, item) more
    rw [fieldChars_cons_cons, List.append_assoc, List.cons_append, List.append_assoc,
      List.cons_append]
    rw [front, List.cons_append] at first others ⊢
    rw [scanFields_of_scanValue name first, others]
    rfl

end

/-! ## Documents -/

/-- The text of a plain value is that value, and nothing is behind it. -/
theorem scan_text {j : Json} (plain : j.Plain Source.depthLimit) :
    scan j.text = ⟨j.toSource, true⟩ := by
  have read := scanValue_chars j plain [] .nil (2 * j.chars.length + 2) (by omega)
  rw [List.append_nil] at read
  unfold scan
  simp only [text, String.toList_ofList, read, within_toSource j plain]
  rfl

/-- The bytes of the text of a plain value are that value, and nothing is behind it. -/
theorem scanBytes_text {j : Json} (plain : j.Plain Source.depthLimit) :
    scanBytes j.text.toUTF8.toList = ⟨j.toSource, true⟩ := by
  rw [scanBytes, Text.ofBytes_toList, Text.fromUTF8?_toUTF8]
  exact scan_text plain

end Itinerary.Json
