import Itinerary.Text.QuotedTable
import Itinerary.Text.Ranges

/-!
# Texts shown in quotes

Messages show foreign text in quotes, so that a reader sees where it starts, where it ends and what
it holds. Within the quotes the quote itself and the backslash are preceded by a backslash; tab,
carriage return, line feed and the null character have two-character names; every other character
that a screen would hide is written as its hexadecimal code point between braces.
-/

namespace Itinerary.Text

/-- The hexadecimal digits of a number, in lower case and without leading zeros. -/
def hex (n : Nat) : List Char :=
  Nat.toDigits 16 n

/-- A character as it stands inside quotes of the kind `quote`. -/
def quoteChar (quote c : Char) : List Char :=
  if c = '\x00' then ['\\', '0']
  else if c = '\t' then ['\\', 't']
  else if c = '\r' then ['\\', 'r']
  else if c = '\n' then ['\\', 'n']
  else if c = '\\' ∨ c = quote then ['\\', c]
  else if inRanges hiddenRanges c.toNat then
    ['\\', 'u', '{'] ++ hex c.toNat ++ ['}']
  else [c]

/-- The text between double quotes. -/
def quoted (s : String) : String :=
  String.ofList ('"' :: s.toList.flatMap (quoteChar '"') ++ ['"'])

/-- One character between single quotes. -/
def quotedChar (c : Char) : String :=
  String.ofList ('\'' :: quoteChar '\'' c ++ ['\''])

end Itinerary.Text
