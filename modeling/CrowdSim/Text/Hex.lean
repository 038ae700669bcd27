import CrowdSim.Text.Utf8
import CrowdSim.Text.Quote

/-!
# Hexadecimal byte text

Byte sequences are written as two lowercase hexadecimal digits per byte, most significant digit
first. Reading takes the bytes of the text's UTF-8 form two at a time and accepts digits of
either case. It fails at the first byte that is not a digit, checking both bytes of a pair
before the next pair, and a text with an odd number of bytes whose last byte is a digit fails
for its length.
-/

namespace CrowdSim

namespace Hex

/-- The lowercase digit of a value below sixteen. -/
def digit (n : Nat) : Char :=
  if n < 10 then Char.ofNat (48 + n) else Char.ofNat (87 + n)

/-- The value of a hexadecimal digit of either case. -/
def value? (c : Char) : Option Nat :=
  if '0' ≤ c && c ≤ '9' then some (c.toNat - 48)
  else if 'a' ≤ c && c ≤ 'f' then some (c.toNat - 87)
  else if 'A' ≤ c && c ≤ 'F' then some (c.toNat - 55)
  else none

/-- The text of a byte sequence. -/
def encode (bs : Bytes) : String :=
  String.ofList (bs.flatMap fun b => [digit (b.toNat / 16), digit (b.toNat % 16)])

/-- Why a text does not write bytes. -/
inductive Error where
  /-- A byte of the text that is not a digit. -/
  | invalidByte (b : UInt8)
  /-- An odd number of digits. -/
  | oddLength
  deriving DecidableEq, Repr

/-- The message of a reading failure; the offending byte is named as the code point of the
same number. -/
def Error.message : Error → String
  | .invalidByte b => "encoding/hex: invalid byte: " ++ Quote.codePoint b.toNat
  | .oddLength => "encoding/hex: odd length hex string"

/-- The value of a byte that is a digit. -/
def byteValue (b : UInt8) : Except Error Nat :=
  match value? (Char.ofNat b.toNat) with
  | some v => .ok v
  | none => .error (.invalidByte b)

/-- The bytes of a sequence of digit bytes, two per byte. -/
def bytesOf : Bytes → Except Error Bytes
  | [] => .ok []
  | [b] => do
    let _ ← byteValue b
    .error .oddLength
  | hi :: lo :: rest => do
    let h ← byteValue hi
    let l ← byteValue lo
    let tail ← bytesOf rest
    pure (UInt8.ofNat (h * 16 + l) :: tail)

/-- The bytes written by a hexadecimal text. -/
def decode (s : String) : Except Error Bytes := bytesOf (Utf8.encode s)

end Hex

end CrowdSim
