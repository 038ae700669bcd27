import CrowdSim.Http.Address

/-!
# Request targets

The target of a request line must read as a URI reference that a request may carry (RFC 3986):

* it holds no control byte and is not empty;
* `*` stands alone;
* an optional scheme (a letter, then letters, digits, `+`, `-` or `.`, up to a colon) is split
  off, and a target starting with a colon is refused; the query after the first `?` is not
  looked at;
* without a scheme the rest must start with `/`; with one, a rest not starting with `/` is an
  opaque part and accepted as is;
* with a scheme, a rest starting with `//` holds an authority up to the next `/`: a host name,
  or a bracketed IPv6 address with an optional zone, then optionally a colon and digits, all
  after an optional userinfo ending at the last `@`. A `[` elsewhere in a host is refused;
* every `%` must start an escape of two hexadecimal digits. In a host an escape may only stand
  for a byte from 0x80 up (or be `%25`), and ASCII bytes other than letters, digits and
  ``!$&'()*+,;=:[]<>"-_.~`` are refused. In a zone an escape may only stand for a byte allowed
  raw in a host, or a space.

A `CONNECT` request names only an authority; it is read as if written after `http://`.
-/

namespace CrowdSim

namespace Http

/-- The parts of a target whose escapes are checked, each with its own rule. -/
inductive Part where
  | path
  | host
  | zone
  | userinfo
  deriving DecidableEq

/-- An ASCII byte a host may hold without escaping. -/
def isHostByte (b : UInt8) : Bool :=
  isDigit b || isLetter b || (bytesOf "!$&()*+,;=:[]<>-_.~").contains b || b.toNat == 39 ||
    b.toNat == 34

/-- The escape `%xy` is allowed in the part. -/
def escapeAllowed (p : Part) (x y : UInt8) : Bool :=
  let v := hexValue x * 16 + hexValue y
  let pct25 := x == byte '2' && y == byte '5'
  match p with
  | .host => pct25 || hexValue x ≥ 8
  | .zone => pct25 || v == 32 || (v < 128 && isHostByte (UInt8.ofNat v))
  | .path | .userinfo => true

/-- A raw byte is allowed in the part. -/
def rawAllowed (p : Part) (b : UInt8) : Bool :=
  match p with
  | .host | .zone => b.toNat ≥ 128 || isHostByte b
  | .path | .userinfo => true

/-- Every escape of the bytes is well formed and every byte allowed, under the rules of `p`. -/
def escapesValid (p : Part) : Bytes → Bool
  | [] => true
  | b :: rest =>
    if b == byte '%' then
      match rest with
      | x :: y :: more => isHexDigit x && isHexDigit y && escapeAllowed p x y && escapesValid p more
      | _ => false
    else rawAllowed p b && escapesValid p rest

/-- Nothing, or a colon and digits: what may follow a host name. -/
def hostSuffixValid : Bytes → Bool
  | [] => true
  | c :: ds => c == byte ':' && ds.all isDigit

/-- The text in brackets names an IPv6 address: raw address bytes, then optionally a zone
introduced by the escape `%25`. -/
def literalValid (inner : Bytes) : Bool :=
  match indexOf? (bytesOf "%25") inner with
  | some z =>
    let addr := inner.take z
    !addr.contains (byte '%') && escapesValid .host addr && escapesValid .zone (inner.drop z) &&
      family? (addr ++ byte '%' :: inner.drop (z + 3)) == some .v6
  | none => !inner.contains (byte '%') && escapesValid .host inner && family? inner == some .v6

/-- A host, with its optional colon and digits. A host holding a `[` must start with it and
close it with its last `]`. -/
def hostValid (host : Bytes) : Bool :=
  if host.head? == some (byte '[') then
    match lastIndex (byte ']') host with
    | none => false
    | some i => hostSuffixValid (host.drop (i + 1)) && literalValid ((host.take i).drop 1)
  else if host.contains (byte '[') then false
  else
    (match lastIndex (byte ':') host with
      | some i => hostSuffixValid (host.drop i)
      | none => true) && escapesValid .host host

/-- A byte a userinfo may hold. -/
def isUserinfoByte (b : UInt8) : Bool :=
  isDigit b || isLetter b || (bytesOf "-._:~!$&()*+,;=%@").contains b || b.toNat == 39

/-- An authority: a host after an optional userinfo ending at the last `@`. -/
def authorityValid (auth : Bytes) : Bool :=
  match lastIndex (byte '@') auth with
  | none => hostValid auth
  | some i =>
    let info := auth.take i
    hostValid (auth.drop (i + 1)) && info.all isUserinfoByte &&
      match cut (byte ':') info with
      | none => escapesValid .userinfo info
      | some (user, pass) => escapesValid .userinfo user && escapesValid .userinfo pass

/-- The length of the scheme at the front, if there is one; `none` inside when there is none,
and an error when the target starts with a colon. -/
def schemeLength (i : Nat) : Bytes → Except Unit (Option Nat)
  | [] => .ok none
  | b :: rest =>
    if isLetter b then schemeLength (i + 1) rest
    else if isDigit b || b == byte '+' || b == byte '-' || b == byte '.' then
      if i == 0 then .ok none else schemeLength (i + 1) rest
    else if b == byte ':' then
      if i == 0 then .error () else .ok (some i)
    else .ok none

/-- The part before the query: a single `?` at the end is dropped, otherwise the text is cut at
the first `?`. -/
def beforeQuery (rest : Bytes) : Bytes :=
  if rest.getLast? == some (byte '?') && rest.count (byte '?') == 1 then rest.dropLast
  else match cut (byte '?') rest with
    | some (before, _) => before
    | none => rest

/-- The target is one a request may carry. -/
def targetValid (raw : Bytes) : Bool :=
  if raw.any isControl || raw.isEmpty then false
  else if raw == [byte '*'] then true
  else
    match schemeLength 0 raw with
    | .error _ => false
    | .ok scheme =>
      let hasScheme := scheme.isSome
      let rest := beforeQuery (match scheme with
        | some n => raw.drop (n + 1)
        | none => raw)
      if rest.head? != some (byte '/') then hasScheme
      else if hasScheme && rest.take 2 == bytesOf "//" then
        let auth := rest.drop 2
        let authority := auth.takeWhile (· != byte '/')
        authorityValid authority && escapesValid .path (auth.drop authority.length)
      else escapesValid .path rest

/-- The target of a request with this method: a `CONNECT` target not starting with `/` is an
authority. -/
def requestTargetValid (method : String) (target : Bytes) : Bool :=
  if method == "CONNECT" && target.head? != some (byte '/') then
    targetValid (bytesOf "http://" ++ target)
  else targetValid target

end Http

end CrowdSim
