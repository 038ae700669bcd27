import CrowdSim.Text.Utf8

/-!
# Classes of bytes in HTTP text

The byte classes that reading a request head needs (RFC 7230 and RFC 3986), and the small list
operations it is written with: splitting at the first or last occurrence of a byte and trimming
blanks.
-/

namespace CrowdSim

namespace Http

/-- The byte of an ASCII character. -/
def byte (c : Char) : UInt8 := UInt8.ofNat c.toNat

/-- The bytes of an ASCII text. -/
def bytesOf (s : String) : Bytes := s.toList.map byte

/-- The text of ASCII bytes. -/
def ascii (bs : Bytes) : String := String.ofList (bs.map fun b => Char.ofNat b.toNat)

/-- A decimal digit. -/
def isDigit (b : UInt8) : Bool := 48 ≤ b.toNat && b.toNat ≤ 57

/-- An ASCII letter. -/
def isLetter (b : UInt8) : Bool :=
  (65 ≤ b.toNat && b.toNat ≤ 90) || (97 ≤ b.toNat && b.toNat ≤ 122)

/-- A hexadecimal digit of either case. -/
def isHexDigit (b : UInt8) : Bool :=
  isDigit b || (65 ≤ b.toNat && b.toNat ≤ 70) || (97 ≤ b.toNat && b.toNat ≤ 102)

/-- The value of a hexadecimal digit. -/
def hexValue (b : UInt8) : Nat :=
  if isDigit b then b.toNat - 48
  else if b.toNat ≤ 70 then b.toNat - 55
  else b.toNat - 87

/-- A control byte: below the space, or DEL. -/
def isControl (b : UInt8) : Bool := b.toNat < 32 || b.toNat == 127

/-- A space or a horizontal tab. -/
def isBlank (b : UInt8) : Bool := b.toNat == 32 || b.toNat == 9

/-- A byte of a token (RFC 7230): a letter, a digit, or one of ``!#$%&'*+-.^_`|~``. -/
def isTokenByte (b : UInt8) : Bool :=
  isDigit b || isLetter b ||
    [33, 35, 36, 37, 38, 39, 42, 43, 45, 46, 94, 95, 96, 124, 126].contains b.toNat

/-- A byte allowed in a header value: a tab, a visible ASCII character or space, or any byte
from 0x80 up. -/
def isValueByte (b : UInt8) : Bool := b.toNat == 9 || (32 ≤ b.toNat && b.toNat != 127)

/-- The parts before and after the first occurrence of `sep`, if any. -/
def cut (sep : UInt8) (bs : Bytes) : Option (Bytes × Bytes) :=
  let before := bs.takeWhile (· != sep)
  if before.length < bs.length then some (before, bs.drop (before.length + 1)) else none

/-- The position of the last occurrence of `b`, if any. -/
def lastIndex (b : UInt8) (bs : Bytes) : Option Nat :=
  let n := (bs.reverse.takeWhile (· != b)).length
  if n < bs.length then some (bs.length - n - 1) else none

/-- The position of the first occurrence of `pat` as a contiguous part, counting from `i`, if
any. -/
def indexFrom? (pat : Bytes) (i : Nat) (bs : Bytes) : Option Nat :=
  if bs.take pat.length == pat then some i
  else match bs with
    | [] => none
    | _ :: rest => indexFrom? pat (i + 1) rest

/-- The position of the first occurrence of `pat` as a contiguous part, if any. -/
def indexOf? (pat bs : Bytes) : Option Nat := indexFrom? pat 0 bs

/-- Drops spaces and tabs at both ends. -/
def trimBlank (bs : Bytes) : Bytes :=
  ((bs.dropWhile isBlank).reverse.dropWhile isBlank).reverse

/-- Drops spaces, tabs, carriage returns and line feeds at both ends. -/
def trimSpace (bs : Bytes) : Bytes :=
  let sp (b : UInt8) : Bool := isBlank b || b.toNat == 13 || b.toNat == 10
  ((bs.dropWhile sp).reverse.dropWhile sp).reverse

/-- ASCII letters in lower case. -/
def lowerByte (b : UInt8) : UInt8 := if 65 ≤ b.toNat && b.toNat ≤ 90 then b + 32 else b

/-- The byte strings are equal up to ASCII case. -/
def sameFold (a b : Bytes) : Bool := a.map lowerByte == b.map lowerByte

end Http

end CrowdSim
