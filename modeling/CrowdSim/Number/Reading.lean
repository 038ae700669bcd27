import CrowdSim.Number.Shortest
import CrowdSim.Number.Elementary

/-!
# Reading decimals

A decimal `m · 10 ^ e` becomes the double nearest to it, a tie going to the even significand.
The quotient is taken exactly, with enough bits for the rounding and a sticky bit for the rest,
so there is a single rounding, also into the subnormal range. Values far outside the range of
doubles are settled by their digit count before any large power is formed.

Numeric literals are read by the JSON grammar: an optional minus, an integer part without
leading zeros, an optional fraction and an optional exponent.
-/

namespace CrowdSim

namespace Elementary

/-- Rounds `m / 2 ^ s` to the nearest natural when the true value may also carry a nonzero
remainder below `m` (`sticky`); ties, which need no remainder, go to the even neighbour. -/
def roundShiftSticky (m s : Nat) (sticky : Bool) : Nat :=
  if s = 0 then m
  else
    let q := m >>> s
    let r := m - (q <<< s)
    let half := 1 <<< (s - 1)
    if r > half || (r == half && sticky) then q + 1
    else if r < half then q
    else if q % 2 = 0 then q else q + 1

/-- The double nearest to `n / d`, for naturals with `d > 0`. -/
def ofRatio (n d : Nat) : Float :=
  if n = 0 || d = 0 then 0.0
  else
    -- a scale `2 ^ k` that leaves at least 55 bits in the quotient
    let k : Int := 55 + (Nat.log2 d : Int) - (Nat.log2 n : Int)
    let (num, den) := if k ≥ 0 then (n <<< k.toNat, d) else (n, d <<< (-k).toNat)
    let q := num / den
    let sticky := num % den != 0
    let e : Int := -k
    let len : Int := Nat.log2 q + 1
    let shift : Int := max (len - 53) (-1074 - e)
    if shift ≥ 0 then
      let sig := roundShiftSticky q shift.toNat sticky
      Float.scaleB sig.toFloat (e + shift)
    else Float.scaleB q.toFloat e

end Elementary

/-- The double nearest to a nonnegative decimal. -/
def Decimal.toFloat (d : Decimal) : Float :=
  if d.digits = 0 then 0.0
  else
    let lead : Int := (Decimal.digitList d.digits).length + d.exponent
    if lead > 310 then 1.0 / 0.0
    else if lead < -324 then 0.0
    else
      match d.exponent with
      | .ofNat e => Elementary.ofRatio (d.digits * Nat.pow 10 e) 1
      | .negSucc e => Elementary.ofRatio d.digits (Nat.pow 10 (e + 1))

/-- A numeric literal: a sign and a decimal magnitude. -/
structure Numeral where
  negative : Bool
  magnitude : Decimal
  /-- Written with neither a fraction nor an exponent. -/
  integral : Bool

namespace Numeral

/-- Reads a run of decimal digits into a natural and its length. -/
def digitRun : List Char → Nat × Nat × List Char
  | c :: rest =>
    if c.isDigit then
      let (v, n, r) := digitRun rest
      (v + (c.toNat - 48) * Nat.pow 10 n, n + 1, r)
    else (0, 0, c :: rest)
  | [] => (0, 0, [])

/-- Reads a literal by the JSON number grammar, the whole text. -/
def parse? (s : String) : Option Numeral :=
  let cs := s.toList
  let (negative, cs) := match cs with
    | '-' :: r => (true, r)
    | r => (false, r)
  let leadingZero := match cs with
    | '0' :: d :: _ => d.isDigit
    | _ => false
  let (intVal, intLen, cs) := digitRun cs
  if intLen = 0 || leadingZero then none
  else
    let (fracVal, fracLen, hasFrac, cs) := match cs with
      | '.' :: r =>
        let (v, n, r) := digitRun r
        (v, n, true, r)
      | r => (0, 0, false, r)
    if hasFrac && fracLen = 0 then none
    else
      let (expVal, hasExp, ok, cs) : Int × Bool × Bool × List Char := match cs with
        | c :: r =>
          if c == 'e' || c == 'E' then
            let (eneg, r) := match r with
              | '-' :: r => (true, r)
              | '+' :: r => (false, r)
              | r => (false, r)
            let (v, n, r) := digitRun r
            ((if eneg then -(v : Int) else v), true, n > 0, r)
          else (0, false, true, c :: r)
        | [] => (0, false, true, [])
      if !ok || !cs.isEmpty then none
      else
        some ⟨negative, ⟨intVal * Nat.pow 10 fracLen + fracVal, expVal - fracLen⟩,
          !hasFrac && !hasExp⟩

/-- The nearest double; out of range it is an infinity or a zero of the literal's sign. -/
def toFloat (n : Numeral) : Float :=
  let v := n.magnitude.toFloat
  if n.negative then -v else v

/-- The exact integer, when the literal is written as one. -/
def toInt? (n : Numeral) : Option Int :=
  if !n.integral then none
  else
    let m : Int := n.magnitude.digits * Nat.pow 10 n.magnitude.exponent.toNat
    some (if n.negative then -m else m)

end Numeral

end CrowdSim
