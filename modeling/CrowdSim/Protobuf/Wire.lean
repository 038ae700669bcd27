import CrowdSim.Text.Utf8
import CrowdSim.Number.Binary64

/-!
# The protocol buffer wire format

A message is a sequence of fields; a field is a tag (its number and wire type, as one varint)
followed by a value whose extent the wire type fixes: a varint, eight or four little-endian
bytes, a length-prefixed byte string, or a group that runs to the end-group tag of the same
number.

The readers return the value and the bytes after it. Their failures are the causes of
`WireError`, whose texts are what a reader reports. `skipValue` steps over a value of any wire
type, which is how a reader passes fields it does not know; nested groups are followed to a
depth of ten thousand.

The writers emit the shortest varint and the fields as proto3 writes them.
-/

namespace CrowdSim

namespace Protobuf

/-- The wire type of a field: how its value is laid out. -/
inductive WireType where
  | varint
  | fixed64
  | bytes
  | startGroup
  | endGroup
  | fixed32
  /-- Codes 6 and 7, which no value may use. -/
  | reserved
  deriving DecidableEq, Repr

/-- The wire type of the low three bits of a tag. -/
def WireType.ofCode (n : Nat) : WireType :=
  match n % 8 with
  | 0 => .varint
  | 1 => .fixed64
  | 2 => .bytes
  | 3 => .startGroup
  | 4 => .endGroup
  | 5 => .fixed32
  | _ => .reserved

/-- The code of a wire type in a tag. -/
def WireType.code : WireType → Nat
  | .varint => 0
  | .fixed64 => 1
  | .bytes => 2
  | .startGroup => 3
  | .endGroup => 4
  | .fixed32 => 5
  | .reserved => 6

/-- Why bytes are not a well-formed field. -/
inductive WireError where
  /-- The bytes end inside a tag or a value. -/
  | truncated
  /-- A tag names field number zero or one beyond the 32-bit range. -/
  | fieldNumber
  /-- A varint runs past ten bytes or past 64 bits. -/
  | overflow
  /-- A value of wire type 6 or 7. -/
  | reserved
  /-- An end-group tag without its start, or closing another group. -/
  | endGroup
  /-- Groups nested beyond the depth limit. -/
  | recursion
  deriving DecidableEq, Repr

/-- The text a reader reports for each cause. -/
def WireError.message : WireError → String
  | .truncated => "unexpected EOF"
  | .fieldNumber => "proto: invalid field number"
  | .overflow => "proto: variable length integer overflow"
  | .reserved => "proto: cannot parse reserved wire type"
  | .endGroup => "proto: mismatching end group marker"
  | .recursion => "proto: parse error"

/-! ## Reading -/

/-- A varint from its byte `i` on, with the bits of the bytes before already in `acc`: seven
bits per byte, least significant group first; the tenth byte may only add the top bit. -/
def readVarintFrom (i acc : Nat) : Bytes → Except WireError (UInt64 × Bytes)
  | [] => .error .truncated
  | b :: rest =>
    if i ≥ 9 then
      if b.toNat < 2 then .ok (UInt64.ofNat (acc + b.toNat * Nat.pow 2 63), rest)
      else .error .overflow
    else if b.toNat < 0x80 then .ok (UInt64.ofNat (acc + b.toNat * Nat.pow 2 (7 * i)), rest)
    else readVarintFrom (i + 1) (acc + (b.toNat - 0x80) * Nat.pow 2 (7 * i)) rest

/-- A varint at the front of the bytes. -/
def readVarint (bs : Bytes) : Except WireError (UInt64 × Bytes) := readVarintFrom 0 0 bs

/-- The largest field number a tag may carry. -/
def maxTagNumber : Nat := Nat.pow 2 31 - 1

/-- A tag: the field number (from one up to `maxTagNumber`) and the wire type. -/
def readTag (bs : Bytes) : Except WireError ((Nat × WireType) × Bytes) := do
  let (v, rest) ← readVarint bs
  let num := v.toNat / 8
  if num < 1 || num > maxTagNumber then .error .fieldNumber
  else pure ((num, WireType.ofCode v.toNat), rest)

/-- A little-endian number of `n` bytes. -/
def readLittle (n : Nat) (bs : Bytes) : Except WireError (Nat × Bytes) :=
  if bs.length < n then .error .truncated
  else
    let word := (bs.take n).foldr (fun b acc => b.toNat + 256 * acc) 0
    .ok (word, bs.drop n)

/-- An eight-byte value. -/
def readFixed64 (bs : Bytes) : Except WireError (UInt64 × Bytes) := do
  let (w, rest) ← readLittle 8 bs
  pure (UInt64.ofNat w, rest)

/-- A length-prefixed byte string. -/
def readBytes (bs : Bytes) : Except WireError (Bytes × Bytes) := do
  let (len, rest) ← readVarint bs
  if len.toNat > rest.length then .error .truncated
  else pure (rest.take len.toNat, rest.drop len.toNat)

/-- The depth to which skipped groups may nest. -/
def groupDepth : Nat := 10000

mutual

/-- Steps over the value of field `num` of wire type `t`. `budget` counts the groups that may
still open; `fuel` bounds the steps and is never exhausted when it exceeds twice the length of
the bytes. -/
def skipValue (fuel budget num : Nat) (t : WireType) (bs : Bytes) : Except WireError Bytes :=
  match t with
  | .varint => do
    let (_, rest) ← readVarint bs
    pure rest
  | .fixed64 => do
    let (_, rest) ← readLittle 8 bs
    pure rest
  | .fixed32 => do
    let (_, rest) ← readLittle 4 bs
    pure rest
  | .bytes => do
    let (_, rest) ← readBytes bs
    pure rest
  | .endGroup => .error .endGroup
  | .reserved => .error .reserved
  | .startGroup =>
    match fuel, budget with
    | 0, _ => .error .truncated
    | _, 0 => .error .recursion
    | fuel + 1, budget + 1 => skipGroup fuel budget num bs

/-- Steps over the fields of group `num` and its end-group tag. -/
def skipGroup (fuel budget num : Nat) (bs : Bytes) : Except WireError Bytes :=
  match fuel with
  | 0 => .error .truncated
  | fuel + 1 => do
    let ((num', t), rest) ← readTag bs
    if t == .endGroup then
      if num' == num then pure rest else .error .endGroup
    else
      let rest ← skipValue fuel budget num' t rest
      skipGroup fuel budget num rest

end

/-- Steps over the value of field `num` of wire type `t` at the front of the bytes. -/
def skip (num : Nat) (t : WireType) (bs : Bytes) : Except WireError Bytes :=
  skipValue (2 * bs.length + 2) (groupDepth + 1) num t bs

/-! ## Writing -/

/-- The shortest varint of a natural below `2 ^ 64`. -/
def varint (n : Nat) : Bytes :=
  if n < 0x80 then [UInt8.ofNat n]
  else UInt8.ofNat (n % 0x80 + 0x80) :: varint (n / 0x80)
termination_by n
decreasing_by omega

/-- The tag of field `num` with wire type `t`. -/
def tag (num : Nat) (t : WireType) : Bytes := varint (num * 8 + t.code)

/-- The eight little-endian bytes of a word. -/
def fixed64 (w : UInt64) : Bytes :=
  (List.range 8).map fun i => UInt8.ofNat (w.toNat / Nat.pow 2 (8 * i) % 256)

/-- A varint field; proto3 leaves out a zero. -/
def varintField (num : Nat) (w : UInt64) : Bytes :=
  if w == 0 then [] else tag num .varint ++ varint w.toNat

/-- A double field, the double given by its word; both zeros are left out, as the writer tests the
double against zero. -/
def doubleField (num : Nat) (w : UInt64) : Bytes :=
  if Binary64.isZeroWord w then [] else tag num .fixed64 ++ fixed64 w

/-- A boolean field; proto3 leaves out false. -/
def boolField (num : Nat) (b : Bool) : Bytes :=
  if b then tag num .varint ++ [1] else []

/-- A length-prefixed field, written even when empty. -/
def bytesField (num : Nat) (body : Bytes) : Bytes :=
  tag num .bytes ++ varint body.length ++ body

end Protobuf

end CrowdSim
