import CrowdSim.Http.Target

/-!
# Reading a request head

A request head is a request line and header lines, up to a blank line. The bytes are read the
way an HTTP/1.1 server reads them from a connection:

* a line ends at a line feed, dropped with a carriage return right before it; the last line
  may end with the bytes;
* the request line is a method, a target and a protocol version, separated by the first two
  spaces. The method is a token, the version `HTTP/m.n` with one digit each, and the target is
  checked by `requestTargetValid`;
* a header line is a name, a colon and a value. A line starting with spaces or tabs continues
  the line before it: each such line is trimmed and appended after one space. The first header
  line may not be such a continuation;
* a name is a token, kept as written if it holds a space and written in canonical case (upper
  case at the start and after each `-`, lower case elsewhere) otherwise. A value may not hold a
  control byte other than a tab, and loses its leading blanks.

After the head come the framing rules of the body (`frame`): a `Transfer-Encoding` of a request
from version 1.1 on must be the single value `chunked`, and then replaces any `Content-Length`.
Otherwise repeated `Content-Length` values must agree, and the length must be empty (no length
is then announced) or a decimal number below `2 ^ 63`. A chunked request may not announce the framing fields as trailers.

Everything here is bytes; text appears only for names and methods, which are ASCII.
-/

namespace CrowdSim

namespace Http

/-- A request head as read. -/
structure Request where
  method : String
  target : Bytes
  /-- The protocol as written, such as `HTTP/1.1`. -/
  protocol : Bytes
  /-- The major and minor version. -/
  version : Nat × Nat
  /-- Header names and values, in order. -/
  fields : List (String × Bytes)
  /-- The bytes after the blank line that ends the head. -/
  rest : Bytes

/-- Why a head cannot be read. -/
inductive HeadError where
  /-- The connection ended before any byte of the request. -/
  | closed
  /-- The bytes ended inside the head. -/
  | truncated
  /-- The head does not read. -/
  | malformed
  /-- A transfer coding other than a single `chunked`. -/
  | unsupportedEncoding
  deriving DecidableEq, Repr

/-- The values of a header, by its canonical name. -/
def Request.values (r : Request) (name : String) : List Bytes :=
  (r.fields.filter fun f => f.1 == name).map (·.2)

/-- The first value of a header, or nothing. -/
def Request.first (r : Request) (name : String) : Bytes := ((r.values name).head?).getD []

/-- The header is present. -/
def Request.has (r : Request) (name : String) : Bool := r.fields.any fun f => f.1 == name

/-- Drops a header. -/
def Request.drop (r : Request) (name : String) : Request :=
  { r with fields := r.fields.filter fun f => f.1 != name }

/-! ## Lines -/

/-- The bytes up to the first line feed, after those already taken in reverse in `acc`, and
the bytes after the line feed if there is one. -/
def splitLine (acc : Bytes) : Bytes → Bytes × Option Bytes
  | [] => (acc.reverse, none)
  | b :: rest => if b.toNat == 10 then (acc.reverse, some rest) else splitLine (b :: acc) rest

/-- The first line and the bytes after it; nothing when no byte is left. -/
def readLine (bs : Bytes) : Option (Bytes × Bytes) :=
  if bs.isEmpty then none
  else
    match splitLine [] bs with
    | (l, some rest) =>
      (some (if l.getLast? == some 13 then l.dropLast else l, rest))
    | (l, none) => some (l, [])

/-- Appends the continuation lines after a header line, whose bytes so far are `acc` in reverse:
each starts with blanks, which are dropped, and is appended trimmed after one space. When the
bytes end right after the blanks, only the space is appended. The line comes back in order. -/
def continuation (fuel : Nat) (acc bs : Bytes) : Bytes × Bytes :=
  match fuel with
  | 0 => (acc.reverse, bs)
  | fuel + 1 =>
    let blanks := bs.takeWhile isBlank
    if blanks.isEmpty then (acc.reverse, bs)
    else
      let bs := bs.drop blanks.length
      match readLine bs with
      | none => ((32 :: acc).reverse, bs)
      | some (l, bs) => continuation fuel ((trimBlank l).reverse ++ 32 :: acc) bs

/-! ## Names and the request line -/

/-- Canonical case: upper case at the start and after each `-`, lower case elsewhere. -/
def canonicalCase (upper : Bool) : Bytes → Bytes
  | [] => []
  | b :: rest =>
    let c := if upper && 97 ≤ b.toNat && b.toNat ≤ 122 then b - 32
      else if !upper && 65 ≤ b.toNat && b.toNat ≤ 90 then b + 32 else b
    c :: canonicalCase (c == byte '-') rest

/-- The name of a header line: tokens are put in canonical case, a name with a space is kept as
written, and anything else is refused. -/
def fieldName (k : Bytes) : Option String :=
  if k.isEmpty || !k.all (fun b => isTokenByte b || b.toNat == 32) then none
  else if k.contains 32 then some (ascii k)
  else some (ascii (canonicalCase true k))

/-- The version of a protocol `HTTP/m.n`. -/
def version? (p : Bytes) : Option (Nat × Nat) :=
  match p with
  | [h, t1, t2, q, s, a, dot, b] =>
    if [h, t1, t2, q, s] == bytesOf "HTTP/" && dot == byte '.' && isDigit a && isDigit b then
      some (a.toNat - 48, b.toNat - 48)
    else none
  | _ => none

/-! ## The header block -/

/-- Reads header lines up to the blank line, the lines read so far in reverse in `acc`; `fuel`
bounds the lines and is never exhausted while it exceeds the number of bytes left. -/
def readFields (fuel : Nat) (acc : List (String × Bytes)) (bs : Bytes) :
    Except HeadError (List (String × Bytes) × Bytes) :=
  match fuel with
  | 0 => .error .truncated
  | fuel + 1 =>
    match readLine bs with
    | none => .error .truncated
    | some (line, bs) =>
      if line.isEmpty then .ok (acc.reverse, bs)
      else if !line.contains (byte ':') then .error .malformed
      else
        let (kv, bs) := continuation fuel (trimBlank line).reverse bs
        match cut (byte ':') kv with
        | none => .error .malformed
        | some (k, v) =>
          match fieldName k with
          | none => .error .malformed
          | some name =>
            if !v.all isValueByte then .error .malformed
            else readFields fuel ((name, v.dropWhile isBlank) :: acc) bs

/-- Reads the request line and the header block. -/
def readHead (bs : Bytes) : Except HeadError Request :=
  match readLine bs with
  | none => .error .closed
  | some (line, bs) =>
    match cut 32 line with
    | none => .error .malformed
    | some (m, rest) =>
      match cut 32 rest with
      | none => .error .malformed
      | some (target, proto) =>
        let method := ascii m
        if m.isEmpty || !m.all isTokenByte then .error .malformed
        else match version? proto with
          | none => .error .malformed
          | some ver =>
            if !requestTargetValid method target then .error .malformed
            else if (bs.head?.map isBlank).getD false then .error .malformed
            else match readFields (bs.length + 1) [] bs with
              | .error e => .error e
              | .ok (fields, rest) => .ok ⟨method, target, proto, ver, fields, rest⟩

/-! ## Framing of the body -/

/-- A decimal number below `2 ^ 63`. -/
def lengthValid (bs : Bytes) : Bool :=
  !bs.isEmpty && bs.all isDigit &&
    bs.foldl (fun acc b => acc * 10 + (b.toNat - 48)) 0 < Nat.pow 2 63

/-- The names a list value holds, trimmed, empty ones left out. -/
def listElements (v : Bytes) : List Bytes :=
  ((v.splitOn (byte ',')).map trimSpace).filter fun e => !e.isEmpty

/-- A name in canonical case when it is a token. -/
def canonicalName (k : Bytes) : String :=
  if k.all isTokenByte then ascii (canonicalCase true k) else ascii k

/-- Applies the framing rules of the body; the head without the fields they consume. -/
def frame (r : Request) : Except HeadError Request :=
  let codings := r.values "Transfer-Encoding"
  let r := r.drop "Transfer-Encoding"
  let modern := r.version.1 ≥ 1 && (r.version.1 > 1 || r.version.2 ≥ 1) || r.version == (0, 0)
  let chunked := !codings.isEmpty && modern
  if chunked && codings.length != 1 then .error .unsupportedEncoding
  else if chunked && !sameFold (codings.headD []) (bytesOf "chunked") then
    .error .unsupportedEncoding
  else
    let r := if chunked then r.drop "Content-Length" else r
    let lengths := r.values "Content-Length"
    match lengths with
    | [] => trailers r chunked
    | l :: more =>
      if more.any fun m => trimSpace m != trimSpace l then .error .malformed
      else if !chunked && !(trimSpace l).isEmpty && !lengthValid (trimSpace l) then
        .error .malformed
      else trailers r chunked
where
  /-- A chunked request may not announce the framing fields as trailers. -/
  trailers (r : Request) (chunked : Bool) : Except HeadError Request :=
    let announced := (r.values "Trailer").flatMap listElements
    if chunked && announced.any (fun k =>
        ["Transfer-Encoding", "Trailer", "Content-Length"].contains (canonicalName k)) then
      .error .malformed
    else .ok r

end Http

end CrowdSim
