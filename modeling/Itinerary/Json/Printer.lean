import Itinerary.Decimal.Shortest
import Itinerary.Json.Basic
import Itinerary.Text.Hex

/-!
# JSON texts

The compact text of a JSON value: no blanks, fields in their order. Inside a text only the quote,
the backslash and the control characters are escaped. A number with a fraction has the fewest digits
that read back and shows that it is one, by a point or an exponent.
-/

namespace Itinerary.Json

/-- A character inside a JSON text. -/
def escape (c : Char) : List Char :=
  if c = '"' then ['\\', '"']
  else if c = '\\' then ['\\', '\\']
  else if c = '\n' then ['\\', 'n']
  else if c = '\r' then ['\\', 'r']
  else if c = '\t' then ['\\', 't']
  else if c = '\x08' then ['\\', 'b']
  else if c = '\x0c' then ['\\', 'f']
  else if c.toNat < 0x20 then
    ['\\', 'u', '0', '0', Text.Hex.digit (c.toNat / 16), Text.Hex.digit (c.toNat % 16)]
  else [c]

/-- A text between its quotes. -/
def textChars (s : String) : List Char :=
  '"' :: s.toList.flatMap escape ++ ['"']

/-- The decimal `n * 10 ^ e` as a JSON number with a fraction: positional while the point stays
within sixteen digits to the right or five to the left, with an exponent beyond. -/
def decimalChars (n : Nat) (e : Int) : List Char :=
  let ds := Decimal.digits n
  let point := (ds.length : Int) + e
  if 0 ≤ e ∧ point ≤ 16 then ds ++ List.replicate e.toNat '0' ++ ['.', '0']
  else if 0 < point ∧ point ≤ 16 then ds.take point.toNat ++ '.' :: ds.drop point.toNat
  else if -5 < point ∧ point ≤ 0 then
    ['0', '.'] ++ List.replicate (-point).toNat '0' ++ ds
  else
    match ds with
    | [] => ['0', '.', '0']
    | [d] => d :: 'e' :: Decimal.signed (point - 1)
    | d :: more => d :: '.' :: more ++ 'e' :: Decimal.signed (point - 1)

/-- A float as a JSON number; what is not finite is null. -/
def floatChars (x : Float) : List Char :=
  match Decimal.Binary.ofFloat x with
  | .nan => ['n', 'u', 'l', 'l']
  | .infinite _ => ['n', 'u', 'l', 'l']
  | .finite negative mantissa exponent narrow =>
    let body :=
      if mantissa = 0 then ['0', '.', '0']
      else
        let (n, e) := Decimal.shortest mantissa exponent narrow
        decimalChars n e
    if negative then '-' :: body else body

mutual

/-- The characters of a value. -/
def chars : Json → List Char
  | .null => ['n', 'u', 'l', 'l']
  | .bool true => ['t', 'r', 'u', 'e']
  | .bool false => ['f', 'a', 'l', 's', 'e']
  | .int i => Decimal.signed i
  | .float x => floatChars x
  | .str s => textChars s
  | .arr items => '[' :: itemChars items
  | .obj fields => '{' :: fieldChars fields

/-- The items of an array up to its closing bracket. -/
def itemChars : List Json → List Char
  | [] => [']']
  | [item] => item.chars ++ [']']
  | item :: rest => item.chars ++ ',' :: itemChars rest

/-- The fields of an object up to its closing brace. -/
def fieldChars : List (String × Json) → List Char
  | [] => ['}']
  | [(name, value)] => textChars name ++ ':' :: value.chars ++ ['}']
  | (name, value) :: rest => textChars name ++ ':' :: value.chars ++ ',' :: fieldChars rest

end

/-- The compact text of a value. -/
def text (j : Json) : String :=
  String.ofList j.chars

end Itinerary.Json
