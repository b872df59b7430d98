import Itinerary.Decimal.Binary
import Itinerary.Text.Hex

/-!
# Addresses to listen on

A host as a number and a socket on it. A host of 32 bits is four decimal numbers between points. A
host of 128 bits is eight hexadecimal groups between colons; one run of zero groups may be left out
between two colons, the last two groups may be written as a 32-bit host, and within an address to
listen on there are brackets around it and perhaps a scope in them.

Written, the longest run of two or more zero groups is left out, the first of several, and a 32-bit
host within a 128-bit one is written as such.
-/

namespace Itinerary.Server

/-- A host as a number. -/
inductive Host where
  | v4 (a b c d : UInt8)
  | v6 (groups : List UInt16)
  deriving DecidableEq

/-- A host and the number of a socket on it; zero is the scope that is left out. -/
structure Address where
  host : Host
  scope : UInt32
  socket : UInt16
  deriving DecidableEq

namespace Host

/-! ## Writing -/

/-- Four numbers with points between them. -/
def quadChars (a b c d : UInt8) : List Char :=
  ['.'].intercalate ([a, b, c, d].map fun n => Decimal.digits n.toNat)

/-- Groups with colons between them. -/
def groupChars (groups : List UInt16) : List Char :=
  [':'].intercalate (groups.map fun g => Nat.toDigits 16 g.toNat)

/-- The number of zero groups at the head. -/
def zeros (groups : List UInt16) : Nat := (groups.takeWhile (· = 0)).length

/-- Where the longest run of zero groups starts and how long it is, given that the groups follow
`start` others. -/
def longestRun (start : Nat) : List UInt16 → Nat × Nat
  | [] => (start, 0)
  | g :: rest =>
    let here := zeros (g :: rest)
    let later := longestRun (start + 1) rest
    if later.2 ≤ here then (start, here) else later

/-- The host as a text. -/
def chars : Host → List Char
  | v4 a b c d => quadChars a b c d
  | v6 groups =>
    match groups with
    | [0, 0, 0, 0, 0, 0xffff, g, h] =>
      [':', ':', 'f', 'f', 'f', 'f', ':'] ++
        quadChars (g >>> 8).toUInt8 g.toUInt8 (h >>> 8).toUInt8 h.toUInt8
    | _ =>
      let (start, length) := longestRun 0 groups
      if 1 < length then
        groupChars (groups.take start) ++ [':', ':'] ++ groupChars (groups.drop (start + length))
      else groupChars groups

def text (h : Host) : String := String.ofList h.chars

/-! ## Reading -/

/-- A decimal digit. -/
def decimalValue? (c : Char) : Option Nat := if c.isDigit then some (c.toNat - 48) else none

/-- The digits at the head of a text, as far as they go, and the rest. -/
def takeDigits (value? : Char → Option Nat) : List Char → List Nat × List Char
  | [] => ([], [])
  | c :: rest =>
    match value? c with
    | some d =>
      let (ds, after) := takeDigits value? rest
      (d :: ds, after)
    | none => ([], c :: rest)

/-- A number at the head of a text, below a bound. -/
def number? (radix : Nat) (value? : Char → Option Nat) (bound : Nat) (cs : List Char) :
    Option (Nat × List Char) :=
  match takeDigits value? cs with
  | ([], _) => none
  | (ds, rest) =>
    let n := ds.foldl (fun n d => n * radix + d) 0
    if n < bound then some (n, rest) else none

/-- One of the four numbers: at most three digits, and a zero only by itself. -/
def octet? (cs : List Char) : Option (UInt8 × List Char) :=
  match takeDigits decimalValue? cs with
  | (0 :: _ :: _, _) => none
  | (ds, _) =>
    if 3 < ds.length then none
    else (number? 10 decimalValue? 256 cs).map fun (n, rest) => (UInt8.ofNat n, rest)

/-- A certain character at the head of a text. -/
def mark? (c : Char) : List Char → Option (List Char)
  | d :: rest => if d = c then some rest else none
  | [] => none

/-- Four numbers with points between them. -/
def quad? (cs : List Char) : Option ((UInt8 × UInt8 × UInt8 × UInt8) × List Char) := do
  let (a, cs) ← octet? cs
  let (b, cs) ← octet? (← mark? '.' cs)
  let (c, cs) ← octet? (← mark? '.' cs)
  let (d, cs) ← octet? (← mark? '.' cs)
  pure ((a, b, c, d), cs)

/-- A group: at most four digits. -/
def group? (cs : List Char) : Option (UInt16 × List Char) :=
  if 4 < (takeDigits Text.Hex.value? cs).1.length then none
  else (number? 16 Text.Hex.value? 65536 cs).map fun (n, rest) => (UInt16.ofNat n, rest)

/-- What stands between the groups read so far and the next one. -/
def separated? (first : Bool) (cs : List Char) : Option (List Char) :=
  if first then some cs else mark? ':' cs

/-- Groups at the head of a text, at most so many, the last two perhaps as four numbers: the groups,
whether they end in such numbers, and the rest of the text. -/
def takeGroups (first : Bool) : Nat → List Char → List UInt16 × Bool × List Char
  | 0, cs => ([], false, cs)
  | left + 1, cs =>
    let quad := if 0 < left then (separated? first cs).bind quad? else none
    match quad with
    | some ((a, b, c, d), rest) =>
      ([a.toUInt16 <<< 8 ||| b.toUInt16, c.toUInt16 <<< 8 ||| d.toUInt16], true, rest)
    | none =>
      match (separated? first cs).bind group? with
      | none => ([], false, cs)
      | some (g, rest) =>
        let (gs, isQuad, after) := takeGroups false left rest
        (g :: gs, isQuad, after)

/-- Eight groups, a run of zeros perhaps left out. -/
def groups? (cs : List Char) : Option (List UInt16 × List Char) :=
  let (head, isQuad, rest) := takeGroups true 8 cs
  if head.length = 8 then some (head, rest)
  else if isQuad then none
  else do
    let rest ← mark? ':' (← mark? ':' rest)
    let (tail, _, rest) := takeGroups true (7 - head.length) rest
    pure (head ++ List.replicate (8 - head.length - tail.length) 0 ++ tail, rest)

end Host

namespace Address

/-- The address as a text. -/
def text (a : Address) : String :=
  let host := match a.host with
    | .v4 .. => a.host.chars
    | .v6 _ =>
      '[' :: a.host.chars ++ (if a.scope = 0 then [] else '%' :: Decimal.digits a.scope.toNat)
        ++ [']']
  String.ofList (host ++ ':' :: Decimal.digits a.socket.toNat)

/-- The number of a socket behind its colon, which ends the text. -/
def socket? (cs : List Char) : Option UInt16 := do
  let cs ← Host.mark? ':' cs
  let (n, rest) ← Host.number? 10 Host.decimalValue? 65536 cs
  if rest.isEmpty then some (UInt16.ofNat n) else none

/-- The scope of a host, zero if there is none. -/
def scope? (cs : List Char) : Option (UInt32 × List Char) :=
  match cs with
  | '%' :: rest =>
    (Host.number? 10 Host.decimalValue? UInt32.size rest).map fun (n, after) =>
      (UInt32.ofNat n, after)
  | _ => some (0, cs)

/-- The address in a text. -/
def ofText? (text : String) : Option Address :=
  match text.toList with
  | '[' :: rest => do
    let (groups, rest) ← Host.groups? rest
    let (scope, rest) ← scope? rest
    let socket ← socket? (← Host.mark? ']' rest)
    pure ⟨.v6 groups, scope, socket⟩
  | cs => do
    let ((a, b, c, d), rest) ← Host.quad? cs
    pure ⟨.v4 a b c d, 0, ← socket? rest⟩

end Address

end Itinerary.Server
