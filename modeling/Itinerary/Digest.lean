/-!
# A 64-bit digest of bytes

The XXH3 hash with seed 0 and its standard secret. Short inputs are mixed whole, middle-sized ones
in pieces of sixteen bytes taken from both ends, and long ones run through eight 64-bit lanes, a
stripe of 64 bytes at a time, with a scramble after every 1024 bytes. Reads past the end of the
input count as zero; no branch makes one.
-/

namespace Itinerary.Digest

/-- The standard secret. -/
def secret : Array UInt8 := #[
  0xb8, 0xfe, 0x6c, 0x39, 0x23, 0xa4, 0x4b, 0xbe, 0x7c, 0x01, 0x81, 0x2c, 0xf7, 0x21, 0xad, 0x1c,
  0xde, 0xd4, 0x6d, 0xe9, 0x83, 0x90, 0x97, 0xdb, 0x72, 0x40, 0xa4, 0xa4, 0xb7, 0xb3, 0x67, 0x1f,
  0xcb, 0x79, 0xe6, 0x4e, 0xcc, 0xc0, 0xe5, 0x78, 0x82, 0x5a, 0xd0, 0x7d, 0xcc, 0xff, 0x72, 0x21,
  0xb8, 0x08, 0x46, 0x74, 0xf7, 0x43, 0x24, 0x8e, 0xe0, 0x35, 0x90, 0xe6, 0x81, 0x3a, 0x26, 0x4c,
  0x3c, 0x28, 0x52, 0xbb, 0x91, 0xc3, 0x00, 0xcb, 0x88, 0xd0, 0x65, 0x8b, 0x1b, 0x53, 0x2e, 0xa3,
  0x71, 0x64, 0x48, 0x97, 0xa2, 0x0d, 0xf9, 0x4e, 0x38, 0x19, 0xef, 0x46, 0xa9, 0xde, 0xac, 0xd8,
  0xa8, 0xfa, 0x76, 0x3f, 0xe3, 0x9c, 0x34, 0x3f, 0xf9, 0xdc, 0xbb, 0xc7, 0xc7, 0x0b, 0x4f, 0x1d,
  0x8a, 0x51, 0xe0, 0x4b, 0xcd, 0xb4, 0x59, 0x31, 0xc8, 0x9f, 0x7e, 0xc9, 0xd9, 0x78, 0x73, 0x64,
  0xea, 0xc5, 0xac, 0x83, 0x34, 0xd3, 0xeb, 0xc3, 0xc5, 0x81, 0xa0, 0xff, 0xfa, 0x13, 0x63, 0xeb,
  0x17, 0x0d, 0xdd, 0x51, 0xb7, 0xf0, 0xda, 0x49, 0xd3, 0x16, 0x55, 0x26, 0x29, 0xd4, 0x68, 0x9e,
  0x2b, 0x16, 0xbe, 0x58, 0x7d, 0x47, 0xa1, 0xfc, 0x8f, 0xf8, 0xb8, 0xd1, 0x7a, 0xd0, 0x31, 0xce,
  0x45, 0xcb, 0x3a, 0x8f, 0x95, 0x16, 0x04, 0x28, 0xaf, 0xd7, 0xfb, 0xca, 0xbb, 0x4b, 0x40, 0x7e]

def prime32a : UInt64 := 0x9E3779B1
def prime32b : UInt64 := 0x85EBCA77
def prime32c : UInt64 := 0xC2B2AE3D
def prime64a : UInt64 := 0x9E3779B185EBCA87
def prime64b : UInt64 := 0xC2B2AE3D27D4EB4F
def prime64c : UInt64 := 0x165667B19E3779F9
def prime64d : UInt64 := 0x85EBCA77C2B2AE63
def prime64e : UInt64 := 0x27D4EB2F165667C5
def mixerA : UInt64 := 0x165667919E3779F9
def mixerB : UInt64 := 0x9FB21C651E98DF25

/-- `count` bytes from a position on as one word, the lowest byte first. -/
def word (bytes : Array UInt8) (start count : Nat) : UInt64 :=
  (List.range count).foldr (fun i w => (w <<< 8) ||| (bytes.getD (start + i) 0).toUInt64) 0

/-- Eight bytes. -/
def word64 (bytes : Array UInt8) (start : Nat) : UInt64 := word bytes start 8

/-- Four bytes. -/
def word32 (bytes : Array UInt8) (start : Nat) : UInt64 := word bytes start 4

/-- A word of the secret. -/
def key (start : Nat) : UInt64 := word64 secret start

/-- Both halves of the full product, put together by exclusive or. -/
def foldProduct (a b : UInt64) : UInt64 :=
  let product := a.toNat * b.toNat
  UInt64.ofNat product ^^^ UInt64.ofNat (product >>> 64)

/-- Rotation to the left. -/
def rotate (x n : UInt64) : UInt64 := (x <<< n) ||| (x >>> (64 - n))

/-- The eight bytes of a word in the opposite order. -/
def reverseBytes (x : UInt64) : UInt64 :=
  (List.range 8).foldl (fun w i => (w <<< 8) ||| ((x >>> (8 * UInt64.ofNat i)) &&& 255)) 0

/-- The last step for middle-sized and long inputs. -/
def finish (h : UInt64) : UInt64 :=
  let h := h ^^^ (h >>> 37)
  let h := h * mixerA
  h ^^^ (h >>> 32)

/-- The last step for the shortest inputs. -/
def finishShort (h : UInt64) : UInt64 :=
  let h := (h ^^^ (h >>> 33)) * prime64b
  let h := (h ^^^ (h >>> 29)) * prime64c
  h ^^^ (h >>> 32)

/-- Sixteen bytes mixed with sixteen bytes of the secret. -/
def mix16 (bytes : Array UInt8) (start keyStart : Nat) : UInt64 :=
  foldProduct (word64 bytes start ^^^ key keyStart)
    (word64 bytes (start + 8) ^^^ key (keyStart + 8))

/-- One to three bytes. -/
def upTo3 (bytes : Array UInt8) : UInt64 :=
  let n := bytes.size
  let first := (bytes.getD 0 0).toUInt64
  let middle := (bytes.getD (n / 2) 0).toUInt64
  let last := (bytes.getD (n - 1) 0).toUInt64
  let joined := (first <<< 16) ||| (middle <<< 24) ||| last ||| (n.toUInt64 <<< 8)
  finishShort (joined ^^^ (word32 secret 0 ^^^ word32 secret 4))

/-- Four to eight bytes. -/
def upTo8 (bytes : Array UInt8) : UInt64 :=
  let n := bytes.size
  let joined := word32 bytes (n - 4) + (word32 bytes 0 <<< 32)
  let h := joined ^^^ (key 8 ^^^ key 16)
  let h := (h ^^^ (rotate h 49 ^^^ rotate h 24)) * mixerB
  let h := (h ^^^ ((h >>> 35) + n.toUInt64)) * mixerB
  h ^^^ (h >>> 28)

/-- Nine to sixteen bytes. -/
def upTo16 (bytes : Array UInt8) : UInt64 :=
  let n := bytes.size
  let low := word64 bytes 0 ^^^ (key 24 ^^^ key 32)
  let high := word64 bytes (n - 8) ^^^ (key 40 ^^^ key 48)
  finish (n.toUInt64 + reverseBytes low + high + foldProduct low high)

/-- Seventeen to 128 bytes: pairs of pieces from both ends. -/
def upTo128 (bytes : Array UInt8) : UInt64 :=
  let n := bytes.size
  let pairs := (List.range ((n - 1) / 32 + 1)).map fun i =>
    mix16 bytes (16 * i) (32 * i) + mix16 bytes (n - 16 * (i + 1)) (32 * i + 16)
  finish (pairs.foldl (· + ·) (n.toUInt64 * prime64a))

/-- 129 to 240 bytes: eight pieces, then the others with a shifted secret. -/
def upTo240 (bytes : Array UInt8) : UInt64 :=
  let n := bytes.size
  let start := (List.range 8).foldl (fun h i => h + mix16 bytes (16 * i) (16 * i))
    (n.toUInt64 * prime64a)
  let later := (List.range (n / 16 - 8)).foldl
    (fun h i => h + mix16 bytes (16 * (i + 8)) (16 * i + 3)) (mix16 bytes (n - 16) 119)
  finish (finish start + later)

/-- The lanes of a long input at its start. -/
def lanes : Array UInt64 :=
  #[prime32c, prime64a, prime64b, prime64c, prime64d, prime32b, prime64e, prime32a]

/-- Adds a stripe of 64 bytes to the lanes: each lane takes a product of its own bytes, and its
neighbour takes the bytes themselves. -/
def addStripe (bytes : Array UInt8) (acc : Array UInt64) (start keyStart : Nat) : Array UInt64 :=
  (Array.range 8).map fun i =>
    let neighbour := word64 bytes (start + 8 * (i ^^^ 1))
    let mixed := word64 bytes (start + 8 * i) ^^^ key (keyStart + 8 * i)
    acc.getD i 0 + neighbour + (mixed % 0x100000000) * (mixed >>> 32)

/-- Scrambles the lanes after a block. -/
def scramble (acc : Array UInt64) : Array UInt64 :=
  (Array.range 8).map fun i =>
    let x := acc.getD i 0
    ((x ^^^ (x >>> 47)) ^^^ key (128 + 8 * i)) * prime32a

/-- Adds some stripes that follow each other. -/
def addStripes (bytes : Array UInt8) (start count : Nat) (acc : Array UInt64) : Array UInt64 :=
  (List.range count).foldl (fun acc i => addStripe bytes acc (start + 64 * i) (8 * i)) acc

/-- More than 240 bytes. -/
def long (bytes : Array UInt8) : UInt64 :=
  let n := bytes.size
  let blocks := (n - 1) / 1024
  let acc := (List.range blocks).foldl
    (fun acc i => scramble (addStripes bytes (1024 * i) 16 acc)) lanes
  let acc := addStripes bytes (1024 * blocks) ((n - 1 - 1024 * blocks) / 64) acc
  let acc := addStripe bytes acc (n - 64) 121
  let merged := (List.range 4).foldl
    (fun h i => h + foldProduct (acc.getD (2 * i) 0 ^^^ key (11 + 16 * i))
      (acc.getD (2 * i + 1) 0 ^^^ key (19 + 16 * i)))
    (n.toUInt64 * prime64a)
  finish merged

/-- The digest of some bytes. -/
def ofBytes (bytes : Array UInt8) : UInt64 :=
  let n := bytes.size
  if n = 0 then finishShort (key 56 ^^^ key 64)
  else if n ≤ 3 then upTo3 bytes
  else if n ≤ 8 then upTo8 bytes
  else if n ≤ 16 then upTo16 bytes
  else if n ≤ 128 then upTo128 bytes
  else if n ≤ 240 then upTo240 bytes
  else long bytes

/-- The digest of a text in UTF-8. -/
def ofText (s : String) : UInt64 := ofBytes s.toUTF8.data

end Itinerary.Digest
