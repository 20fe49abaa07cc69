/-!
# Digests of texts

The digest of a byte string is its 64-bit XXH3 hash with seed 0 and the default
key. It names the file in which the record of a run is kept: the file's name is
the lower half of the digest of the task, followed by an end byte, in
hexadecimal.

## Main definitions

* `Digest.ofBytes` — the digest of a byte string.
* `Digest.ofText` — the digest of a text, with the end byte `0xFF`.
* `Digest.shortName` — the lower half of a text's digest in hexadecimal.
-/

namespace Relay.Digest

/-- The default key. -/
def key : ByteArray := ⟨#[
  0xb8, 0xfe, 0x6c, 0x39, 0x23, 0xa4, 0x4b, 0xbe, 0x7c, 0x01, 0x81, 0x2c, 0xf7, 0x21, 0xad, 0x1c,
  0xde, 0xd4, 0x6d, 0xe9, 0x83, 0x90, 0x97, 0xdb, 0x72, 0x40, 0xa4, 0xa4, 0xb7, 0xb3, 0x67, 0x1f,
  0xcb, 0x79, 0xe6, 0x4e, 0xcc, 0xc0, 0xe5, 0x78, 0x82, 0x5a, 0xd0, 0x7d, 0xcc, 0xff, 0x72, 0x21,
  0xb8, 0x08, 0x46, 0x74, 0xf7, 0x43, 0x24, 0x8e, 0xe0, 0x35, 0x90, 0xe6, 0x81, 0x3a, 0x26, 0x4c,
  0x3c, 0x28, 0x52, 0xbb, 0x91, 0xc3, 0x00, 0xcb, 0x88, 0xd0, 0x65, 0x8b, 0x1b, 0x53, 0x2e, 0xa3,
  0x71, 0x64, 0x48, 0x97, 0xa2, 0x0d, 0xf9, 0x4e, 0x38, 0x19, 0xef, 0x46, 0xa9, 0xde, 0xac, 0xd8,
  0xa8, 0xfa, 0x76, 0x3f, 0xe3, 0x9c, 0x34, 0x3f, 0xf9, 0xdc, 0xbb, 0xc7, 0xc7, 0x0b, 0x4f, 0x1d,
  0x8a, 0x51, 0xe0, 0x4b, 0xcd, 0xb4, 0x59, 0x31, 0xc8, 0x9f, 0x7e, 0xc9, 0xd9, 0x78, 0x73, 0x64,
  0xea, 0xc5, 0xac, 0x83, 0x34, 0xd3, 0xeb, 0xc3, 0xc5, 0x81, 0xa0, 0xff, 0xfa, 0x13, 0x63, 0xeb,
  0x17, 0x0d, 0xdd, 0x51, 0xb7, 0xf0, 0xda, 0x49, 0xd3, 0x16, 0x55, 0x26, 0x29, 0xd4, 0x68, 0x9e,
  0x2b, 0x16, 0xbe, 0x58, 0x7d, 0x47, 0xa1, 0xfc, 0x8f, 0xf8, 0xb8, 0xd1, 0x7a, 0xd0, 0x31, 0xce,
  0x45, 0xcb, 0x3a, 0x8f, 0x95, 0x16, 0x04, 0x28, 0xaf, 0xd7, 0xfb, 0xca, 0xbb, 0x4b, 0x40, 0x7e]⟩

/-! ### Words -/

/-- The byte at an index as a word; zero beyond the end. -/
def byteAt (bytes : ByteArray) (i : Nat) : UInt64 :=
  if h : i < bytes.size then bytes[i].toUInt64 else 0

/-- The word of `count` bytes from an index on, the least significant first. -/
def wordAt (bytes : ByteArray) (i : Nat) : Nat → UInt64
  | 0 => 0
  | count + 1 => byteAt bytes i ||| (wordAt bytes (i + 1) count <<< 8)

/-- Four bytes from an index on. -/
def word32 (bytes : ByteArray) (i : Nat) : UInt64 := wordAt bytes i 4

/-- Eight bytes from an index on. -/
def word64 (bytes : ByteArray) (i : Nat) : UInt64 := wordAt bytes i 8

/-- The bytes of a word in reverse order. -/
def reverseBytes (x : UInt64) : UInt64 :=
  (List.range 8).foldl (fun acc i => (acc <<< 8) ||| ((x >>> (8 * i).toUInt64) &&& 0xFF)) 0

/-- The word turned left by a number of bits. -/
def rotateLeft (x n : UInt64) : UInt64 := (x <<< n) ||| (x >>> (64 - n))

/-- The two halves of the full product, joined by exclusive or. -/
def foldedProduct (x y : UInt64) : UInt64 :=
  let product := x.toNat * y.toNat
  UInt64.ofNat product ^^^ UInt64.ofNat (product / 0x10000000000000000)

/-! ### Final mixing -/

/-- The final mixing of inputs of up to three bytes. -/
def mixShort (h : UInt64) : UInt64 :=
  let h := (h ^^^ (h >>> 33)) * 0xC2B2AE3D27D4EB4F
  let h := (h ^^^ (h >>> 29)) * 0x165667B19E3779F9
  h ^^^ (h >>> 32)

/-- The final mixing of inputs of four to eight bytes, which takes the length in. -/
def mixLength (h length : UInt64) : UInt64 :=
  let h := h ^^^ rotateLeft h 49 ^^^ rotateLeft h 24
  let h := h * 0x9FB21C651E98DF25
  let h := h ^^^ ((h >>> 35) + length)
  let h := h * 0x9FB21C651E98DF25
  h ^^^ (h >>> 28)

/-- The final mixing of longer inputs. -/
def mixLong (h : UInt64) : UInt64 :=
  let h := (h ^^^ (h >>> 37)) * 0x165667919E3779F9
  h ^^^ (h >>> 32)

/-! ### Inputs by length -/

/-- No bytes at all. -/
def ofNothing : UInt64 := mixShort (word64 key 56 ^^^ word64 key 64)

/-- One to three bytes. -/
def ofUpTo3 (bytes : ByteArray) : UInt64 :=
  let length := bytes.size
  let combined := (byteAt bytes 0 <<< 16) ||| (byteAt bytes (length / 2) <<< 24) |||
    byteAt bytes (length - 1) ||| (length.toUInt64 <<< 8)
  mixShort (combined ^^^ (word32 key 0 ^^^ word32 key 4))

/-- Four to eight bytes. -/
def ofUpTo8 (bytes : ByteArray) : UInt64 :=
  let first := word32 bytes 0
  let last := word32 bytes (bytes.size - 4)
  let flip := word64 key 8 ^^^ word64 key 16
  mixLength ((last + (first <<< 32)) ^^^ flip) bytes.size.toUInt64

/-- Nine to sixteen bytes. -/
def ofUpTo16 (bytes : ByteArray) : UInt64 :=
  let length := bytes.size
  let low := word64 bytes 0 ^^^ (word64 key 24 ^^^ word64 key 32)
  let high := word64 bytes (length - 8) ^^^ (word64 key 40 ^^^ word64 key 48)
  mixLong (length.toUInt64 + reverseBytes low + high + foldedProduct low high)

/-- Sixteen bytes from an index on, mixed with sixteen bytes of the key. -/
def mixPair (bytes : ByteArray) (start keyStart : Nat) : UInt64 :=
  foldedProduct (word64 bytes start ^^^ word64 key keyStart)
    (word64 bytes (start + 8) ^^^ word64 key (keyStart + 8))

/-- The accumulator that an input of medium length starts from. -/
def startMedium (bytes : ByteArray) : UInt64 := bytes.size.toUInt64 * 0x9E3779B185EBCA87

/-- Seventeen to 128 bytes: sixteen bytes from both ends, inwards. -/
def ofUpTo128 (bytes : ByteArray) : UInt64 :=
  let length := bytes.size
  mixLong <| (List.range ((length - 1) / 32 + 1)).foldl
    (fun acc i => acc + mixPair bytes (16 * i) (32 * i) +
      mixPair bytes (length - 16 * (i + 1)) (32 * i + 16))
    (startMedium bytes)

/-- 129 to 240 bytes: sixteen bytes at a time with a mixing after the first
eight times, and the last sixteen bytes at the end. -/
def ofUpTo240 (bytes : ByteArray) : UInt64 :=
  let length := bytes.size
  let early := (List.range 8).foldl (fun acc i => acc + mixPair bytes (16 * i) (16 * i))
    (startMedium bytes)
  let late := (List.range (length / 16 - 8)).foldl
    (fun acc i => acc + mixPair bytes (16 * (i + 8)) (16 * i + 3)) (mixLong early)
  mixLong (late + mixPair bytes (length - 16) 119)

/-! ### Long inputs -/

/-- The eight accumulators at the start. -/
def startLong : List UInt64 :=
  [0xC2B2AE3D, 0x9E3779B185EBCA87, 0xC2B2AE3D27D4EB4F, 0x165667B19E3779F9,
    0x85EBCA77C2B2AE63, 0x85EBCA77, 0x27D4EB2F165667C5, 0x9E3779B1]

/-- A stripe of 64 bytes from an index on, taken into the accumulators. Each
takes in the word of its neighbour as it is and its own word with the key. -/
def takeStripe (bytes : ByteArray) (start keyStart : Nat) (acc : List UInt64) : List UInt64 :=
  acc.mapIdx fun i (a : UInt64) =>
    let keyed : UInt64 := word64 bytes (start + 8 * i) ^^^ word64 key (keyStart + 8 * i)
    let neighbour : UInt64 := word64 bytes (start + 8 * (i ^^^ 1))
    a + neighbour + (keyed &&& (0xFFFFFFFF : UInt64)) * (keyed >>> 32)

/-- The accumulators scrambled at the end of a block. -/
def scramble (acc : List UInt64) : List UInt64 :=
  acc.mapIdx fun i (a : UInt64) => ((a ^^^ (a >>> 47)) ^^^ word64 key (128 + 8 * i)) * 0x9E3779B1

/-- The first `count` stripes of a block of sixteen, taken into the accumulators. -/
def takeStripes (bytes : ByteArray) (block count : Nat) (acc : List UInt64) : List UInt64 :=
  (List.range count).foldl (fun acc i => takeStripe bytes (block * 1024 + 64 * i) (8 * i) acc) acc

/-- The eight accumulators joined in pairs. -/
def joinAccumulators (start : UInt64) (acc : List UInt64) : UInt64 :=
  (List.range 4).foldl
    (fun h i => h + foldedProduct ((acc[2 * i]?).getD 0 ^^^ word64 key (11 + 16 * i))
      ((acc[2 * i + 1]?).getD 0 ^^^ word64 key (11 + 16 * i + 8))) start

/-- More than 240 bytes: blocks of sixteen stripes, the stripes of the block that
is not full, and the last 64 bytes once more. -/
def ofLong (bytes : ByteArray) : UInt64 :=
  let length := bytes.size
  let blocks := (length - 1) / 1024
  let acc := (List.range blocks).foldl
    (fun acc block => scramble (takeStripes bytes block 16 acc)) startLong
  let acc := takeStripes bytes blocks ((length - 1 - 1024 * blocks) / 64) acc
  let acc := takeStripe bytes (length - 64) 121 acc
  mixLong (joinAccumulators (startMedium bytes) acc)

/-- The digest of a byte string. -/
def ofBytes (bytes : ByteArray) : UInt64 :=
  let length := bytes.size
  if length = 0 then ofNothing
  else if length ≤ 3 then ofUpTo3 bytes
  else if length ≤ 8 then ofUpTo8 bytes
  else if length ≤ 16 then ofUpTo16 bytes
  else if length ≤ 128 then ofUpTo128 bytes
  else if length ≤ 240 then ofUpTo240 bytes
  else ofLong bytes

/-- The digest of a text, with the end byte `0xFF`. -/
def ofText (text : String) : UInt64 := ofBytes (text.toUTF8.push 0xFF)

/-- The lower half of a text's digest in lower-case hexadecimal, without leading zeros. -/
def shortName (text : String) : String :=
  String.ofList (Nat.toDigits 16 ((ofText text).toNat % 0x100000000))

end Relay.Digest
