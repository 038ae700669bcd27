/-!
# UTF-8 byte sequences

Strings that travel through the wire formats are byte sequences, and not every byte sequence is
UTF-8. This module reads them by the rules of RFC 3629: a lead byte fixes the length of the
encoding, and its first continuation byte is restricted so that overlong forms, surrogates and
code points above U+10FFFF are refused.

* `Utf8.lead?` decodes the encoding that starts a sequence, if it is complete and well formed;
* `Utf8.valid` says that a whole sequence is well formed;
* `Utf8.decodeLossy` reads any sequence, turning every byte that starts no well-formed encoding
  into U+FFFD and moving on by that one byte, which is how a JSON writer that must print any
  bytes as text treats them;
* `Utf8.encode` is the encoding of a string.
-/

namespace CrowdSim

/-- A sequence of bytes. -/
abbrev Bytes := List UInt8

namespace Utf8

/-- The replacement character, written for bytes that encode nothing. -/
def replacement : Char := Char.ofNat 0xFFFD

/-- The byte lies in the closed range `[lo, hi]`. -/
def within (lo hi : Nat) (b : UInt8) : Bool := lo ≤ b.toNat && b.toNat ≤ hi

/-- A continuation byte: `10xxxxxx`. -/
def continuation (b : UInt8) : Bool := within 0x80 0xBF b

/-- The six payload bits of a continuation byte. -/
def payload (b : UInt8) : Nat := b.toNat - 0x80

/-- The range allowed for the first continuation byte after a lead byte of a three- or four-byte
encoding: narrower after `E0` (no overlong form), `ED` (no surrogate), `F0` (no overlong form)
and `F4` (nothing above U+10FFFF). -/
def secondRange (lead : Nat) : Nat × Nat :=
  if lead == 0xE0 then (0xA0, 0xBF)
  else if lead == 0xED then (0x80, 0x9F)
  else if lead == 0xF0 then (0x90, 0xBF)
  else if lead == 0xF4 then (0x80, 0x8F)
  else (0x80, 0xBF)

/-- The character encoded by the lead byte `b` and the bytes after it, with the number of
continuation bytes it takes; `none` when the encoding is incomplete or malformed. -/
def lead? (b : UInt8) (rest : Bytes) : Option (Char × Nat) :=
  let n := b.toNat
  if n < 0x80 then some (Char.ofNat n, 0)
  else if n < 0xC2 then none
  else if n < 0xE0 then
    match rest with
    | b1 :: _ =>
      if continuation b1 then some (Char.ofNat ((n - 0xC0) * 64 + payload b1), 1) else none
    | [] => none
  else if n < 0xF0 then
    let (lo, hi) := secondRange n
    match rest with
    | b1 :: b2 :: _ =>
      if within lo hi b1 && continuation b2 then
        some (Char.ofNat (((n - 0xE0) * 64 + payload b1) * 64 + payload b2), 2)
      else none
    | _ => none
  else if n < 0xF5 then
    let (lo, hi) := secondRange n
    match rest with
    | b1 :: b2 :: b3 :: _ =>
      if within lo hi b1 && continuation b2 && continuation b3 then
        some (Char.ofNat ((((n - 0xF0) * 64 + payload b1) * 64 + payload b2) * 64 + payload b3), 3)
      else none
    | _ => none
  else none

/-- The characters of a byte sequence, a byte that starts no well-formed encoding read as
U+FFFD. -/
def chars : Bytes → List Char
  | [] => []
  | b :: rest =>
    match lead? b rest with
    | some (c, n) => c :: chars (rest.drop n)
    | none => replacement :: chars rest
termination_by bs => bs.length
decreasing_by
  all_goals simp only [List.length_cons, List.length_drop]
  all_goals omega

/-- Every encoding in the sequence is complete and well formed. -/
def valid : Bytes → Bool
  | [] => true
  | b :: rest =>
    match lead? b rest with
    | some (_, n) => valid (rest.drop n)
    | none => false
termination_by bs => bs.length
decreasing_by
  simp only [List.length_cons, List.length_drop]
  omega

/-- The text of a byte sequence, bytes that encode nothing replaced one by one. -/
def decodeLossy (bs : Bytes) : String := String.ofList (chars bs)

/-- The UTF-8 encoding of a string. -/
def encode (s : String) : Bytes := s.toUTF8.toList

end Utf8

end CrowdSim
