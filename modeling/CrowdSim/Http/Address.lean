import CrowdSim.Http.Octet

/-!
# IP address literals

A host written in brackets must name an IPv6 address (RFC 3986), possibly with a zone after a
`%` (RFC 6874). An address text is read strictly:

* an IPv4 address is four decimal fields separated by dots, each at most 255 and written
  without a leading zero;
* an IPv6 address is at most eight groups of one to four hexadecimal digits separated by
  colons. One `::` may stand for one or more groups of zeros, and the last two groups may be
  written as an IPv4 address, when it starts at the thirteenth byte or a `::` came before;
* a zone follows the first `%` of an IPv6 address and may not be empty.

The first `.`, `:` or `%` of the text decides how it is read: a dot makes it IPv4, a colon
IPv6, and a `%` before either leaves it without an address.
-/

namespace CrowdSim

namespace Http

/-- The two address families. -/
inductive Family where
  | v4
  | v6
  deriving DecidableEq, Repr

/-- A dotted decimal IPv4 address: four non-empty fields of digits, each at most 255 and without
a leading zero. -/
def dottedValid (s : Bytes) : Bool :=
  let fields := s.splitOn (byte '.')
  fields.length == 4 && fields.all fun f =>
    !f.isEmpty && f.all isDigit && (f.length == 1 || f.head? != some (byte '0')) &&
      f.foldl (fun acc b => acc * 10 + (b.toNat - 48)) 0 ≤ 255

/-- The groups read so far fill the address: sixteen bytes exactly without `::`, fewer with
one, since a `::` stands for at least one group. -/
def filled (i : Nat) (ellipsis : Bool) : Bool := if i < 16 then ellipsis else !ellipsis

/-- Reads the groups of an IPv6 address from `s`, once `i` of its sixteen bytes are known and
`ellipsis` tells whether a `::` was seen; true when the rest of the text reads. Each group is
two bytes, an embedded IPv4 address four, so eight rounds of `fuel` are enough. -/
def groupsValid (fuel i : Nat) (ellipsis : Bool) (s : Bytes) : Bool :=
  match fuel with
  | 0 => false
  | fuel + 1 =>
    let digits := s.takeWhile isHexDigit
    let rest := s.drop digits.length
    if digits.isEmpty || digits.length > 4 then false
    else if rest.head? == some (byte '.') then
      (ellipsis || i == 12) && i + 4 ≤ 16 && dottedValid s && filled (i + 4) ellipsis
    else
      let i := i + 2
      match rest with
      | [] => filled i ellipsis
      | [_] => false
      | c :: d :: more =>
        if c != byte ':' then false
        else if d == byte ':' then
          if ellipsis then false
          else if more.isEmpty then filled i true
          else i < 16 && groupsValid fuel i true more
        else i < 16 && groupsValid fuel i ellipsis (d :: more)

/-- An IPv6 address with an optional non-empty zone after the first `%`. -/
def sixValid (s : Bytes) : Bool :=
  let addr := s.takeWhile (· != byte '%')
  let zoneOk := addr.length == s.length || addr.length + 1 < s.length
  zoneOk &&
    match addr with
    | c :: d :: rest =>
      if c == byte ':' && d == byte ':' then rest.isEmpty || groupsValid 8 0 true rest
      else groupsValid 8 0 false addr
    | _ => groupsValid 8 0 false addr

/-- The family of the address a text names, if it names one. -/
def family? (s : Bytes) : Option Family :=
  match s.find? fun b => b == byte '.' || b == byte ':' || b == byte '%' with
  | some c =>
    if c == byte '.' then (if dottedValid s then some .v4 else none)
    else if c == byte ':' then (if sixValid s then some .v6 else none)
    else none
  | none => none

end Http

end CrowdSim
