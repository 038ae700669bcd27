import CrowdSim.Number.Binary64

/-!
# Elementary functions on doubles

The simulation's numbers depend on the last bit of `exp`, `log`, `acos` and the Euclidean norm,
so each is a fixed sequence of correctly rounded double operations, given here in full:

* `hypot p q = max · √(1 + (min / max)²)`, with infinities before NaN;
* `log` by the classic reduction of the significand to `(√2/2, √2]` (a significand equal to
  the double nearest `√2/2` is doubled) and a degree-14 odd polynomial in `s = f / (2 + f)`;
* `asin` and `acos` through a rational approximation of `atan` on `[0, 0.66]` and its two
  reflections;
* `exp` by reduction modulo `ln 2` with a fused multiply-add, a Taylor polynomial of
  `e ^ (r / 16) - 1`, and four doublings `e ^ 2u - 1 = (e ^ u - 1)(e ^ u + 1)`, the last one
  fused with the final `+ 1`.

`maxOf` and `minOf` are the maximum and minimum that let an infinity win over NaN and order the
two zeros. `fusedNegMulAdd` is `c - a · b` rounded once, computed exactly on significands, and
`fusedMulAdd` is `c + a · b` the same way.
-/

namespace CrowdSim

namespace Elementary

/-! ## Exact rounding of dyadic values -/

/-- Rounds the natural `m / 2 ^ s` to the nearest natural, a tie to the even one. -/
def roundShift (m s : Nat) : Nat :=
  let q := m >>> s
  let r := m - (q <<< s)
  let half := if s = 0 then 0 else 1 <<< (s - 1)
  if s = 0 then m
  else if r > half then q + 1
  else if r < half then q
  else if q % 2 = 0 then q else q + 1

/-- The double nearest to `m · 2 ^ e` (ties to the even significand), for a natural `m`. -/
def dyadicToFloat (m : Nat) (e : Int) : Float :=
  if m = 0 then 0.0
  else
    let len : Int := Nat.log2 m + 1
    let shift : Int := max (len - 53) (-1074 - e)
    if shift ≥ 0 then
      let sig := roundShift m shift.toNat
      Float.scaleB sig.toFloat (e + shift)
    else Float.scaleB m.toFloat e

/-- A finite double as an integer times a power of two. -/
def intParts (x : Float) : Int × Int :=
  let b := Binary64.ofFloat x
  ((if b.negative then -(b.significand : Int) else b.significand), b.exponent)

/-- `c - a · b` with a single rounding, for finite operands. -/
def fusedNegMulAdd (a b c : Float) : Float :=
  let (ma, ea) := intParts a
  let (mb, eb) := intParts b
  let (mc, ec) := intParts c
  let ep := ea + eb
  let e := min ep ec
  let total : Int := mc * Nat.pow 2 (ec - e).toNat - ma * mb * Nat.pow 2 (ep - e).toNat
  if total = 0 then (if c == 0.0 && a * b == 0.0 then c - a * b else 0.0)
  else if total < 0 then -(dyadicToFloat total.natAbs e)
  else dyadicToFloat total.natAbs e

/-! ## Maximum, minimum and norm -/

/-- The larger of two doubles: `+∞` if either is, else NaN if either is, and `+0` over `-0`. -/
def maxOf (x y : Float) : Float :=
  if x.isInf && x > 0 || y.isInf && y > 0 then x.abs / 0.0
  else if x.isNaN || y.isNaN then 0.0 / 0.0
  else if x == 0.0 && y == 0.0 then (if (Binary64.ofFloat x).negative then y else x)
  else if x > y then x else y

/-- The smaller of two doubles: `-∞` if either is, else NaN if either is, and `-0` under `+0`. -/
def minOf (x y : Float) : Float :=
  if x.isInf && x < 0 || y.isInf && y < 0 then -(1.0 / 0.0)
  else if x.isNaN || y.isNaN then 0.0 / 0.0
  else if x == 0.0 && y == 0.0 then (if (Binary64.ofFloat x).negative then x else y)
  else if x < y then x else y

/-- The Euclidean norm of `(p, q)` as `max · √(1 + (min / max)²)`; an infinite component gives
`+∞` even beside a NaN. -/
def hypot (p q : Float) : Float :=
  let p := p.abs
  let q := q.abs
  if p.isInf || q.isInf then 1.0 / 0.0
  else if p.isNaN || q.isNaN then 0.0 / 0.0
  else
    let (big, small) := if p < q then (q, p) else (p, q)
    if big == 0.0 then 0.0
    else
      let r := small / big
      big * Float.sqrt (1.0 + r * r)

/-! ## Logarithm -/

/-- The significand and exponent of a positive double read straight off its bits: the stored
fraction under the exponent of one half, and the stored exponent less 1022. For a normal number
this is the usual decomposition `x = f · 2 ^ e` with `f` in `[1/2, 1)`; a subnormal number is
read as if its exponent field named `2 ^ -1022`, so its significand lies just above one half. -/
def significandBits (x : Float) : Float × Int :=
  let b := x.toBits
  let frac := Float.ofBits ((b &&& 0x000FFFFFFFFFFFFF) ||| 0x3FE0000000000000)
  (frac, Int.ofNat ((b >>> 52) &&& 0x7FF).toNat - 1022)

/-- The natural logarithm. The significand comes from `significandBits`, so a subnormal
argument is taken for the normal number with the same fraction bits and the least exponent. -/
def log (x : Float) : Float :=
  let ln2Hi : Float := 6.93147180369123816490e-01
  let ln2Lo : Float := 1.90821492927058770002e-10
  let l1 : Float := 6.666666666666735130e-01
  let l2 : Float := 3.999999999940941908e-01
  let l3 : Float := 2.857142874366239149e-01
  let l4 : Float := 2.222219843214978396e-01
  let l5 : Float := 1.818357216161805012e-01
  let l6 : Float := 1.531383769920937332e-01
  let l7 : Float := 1.479819860511658591e-01
  if x.isNaN || (x.isInf && x > 0) then x
  else if x < 0.0 then 0.0 / 0.0
  else if x == 0.0 then -(1.0 / 0.0)
  else
    let (frac, expo) := significandBits x
    let (f1, ki) := if frac ≤ 0.7071067811865476 then (frac * 2.0, expo - 1) else (frac, expo)
    let f := f1 - 1.0
    let k := Float.ofInt ki
    let s := f / (2.0 + f)
    let s2 := s * s
    let s4 := s2 * s2
    let t1 := s2 * (l1 + s4 * (l3 + s4 * (l5 + s4 * l7)))
    let t2 := s4 * (l2 + s4 * (l4 + s4 * l6))
    let r := t1 + t2
    let hfsq := 0.5 * f * f
    k * ln2Hi - ((hfsq - (s * (hfsq + r) + k * ln2Lo)) - f)

/-! ## Inverse sine and cosine -/

/-- The rational approximation of `atan` on `[0, 0.66]`. -/
def atanCore (x : Float) : Float :=
  let p0 : Float := -8.750608600031904122785e-01
  let p1 : Float := -1.615753718733365076637e+01
  let p2 : Float := -7.500855792314704667340e+01
  let p3 : Float := -1.228866684490136173410e+02
  let p4 : Float := -6.485021904942025371773e+01
  let q0 : Float := 2.485846490142306297962e+01
  let q1 : Float := 1.650270098316988542046e+02
  let q2 : Float := 4.328810604912902668951e+02
  let q3 : Float := 4.853903996359136964868e+02
  let q4 : Float := 1.945506571482613964425e+02
  let z := x * x
  let z := z * ((((p0 * z + p1) * z + p2) * z + p3) * z + p4) /
    (((((z + q0) * z + q1) * z + q2) * z + q3) * z + q4)
  x * z + x

/-- The half of `π` as a double. -/
def halfPi : Float := 1.5707963267948966

/-- `atan` of a nonnegative argument, by reflection into `[0, 0.66]`. -/
def atanNonneg (x : Float) : Float :=
  let morebits : Float := 6.123233995736765886130e-17
  let tan3pio8 : Float := 2.41421356237309504880
  if x ≤ 0.66 then atanCore x
  else if x > tan3pio8 then halfPi - atanCore (1.0 / x) + morebits
  else 0.7853981633974483 + atanCore ((x - 1.0) / (x + 1.0)) + 0.5 * morebits

/-- The inverse sine; NaN outside `[-1, 1]`. -/
def asin (x : Float) : Float :=
  if x == 0.0 then x
  else
    let negative := x < 0.0
    let a := if negative then -x else x
    if a > 1.0 then 0.0 / 0.0
    else
      let root := Float.sqrt (1.0 - a * a)
      let t := if a > 0.7 then halfPi - atanNonneg (root / a) else atanNonneg (a / root)
      if negative then -t else t

/-- The inverse cosine, as `π/2 - asin x`. -/
def acos (x : Float) : Float := halfPi - asin x

/-! ## Exponential -/

/-- The nearest integer to a double, ties to even, as a 32-bit conversion does it: an argument
outside the 32-bit range, or NaN, gives `-2 ^ 31`. -/
def roundToInt32 (t : Float) : Int :=
  if t.isNaN || t ≥ 2147483647.5 || t < -2147483648.5 then -2147483648
  else
    let fl := t.floor
    let diff := t - fl
    let n : Int := (fl.toInt64).toInt
    if diff > 0.5 then n + 1
    else if diff < 0.5 then n
    else if n % 2 = 0 then n else n + 1

/-- `c + a · b` with a single rounding, for finite operands: the negation of a double is exact. -/
def fusedMulAdd (a b c : Float) : Float := fusedNegMulAdd (-a) b c

/-- `e ^ x`. The argument is reduced to `r = x - k ln 2` with `k` the nearest integer to
`x / ln 2`, using a two-part `ln 2` and fused multiply-adds; `e ^ (r / 16) - 1` comes from its
Taylor polynomial of degree eight evaluated by fused multiply-adds, is doubled four times, the
last doubling fused with the final `+ 1`, and is scaled by `2 ^ k` at the end, through the
subnormal range in two steps. -/
def exp (x : Float) : Float :=
  let log2e : Float := 1.4426950408889634073599246810018920
  let ln2u : Float := 0.69314718055966295651160180568695068359375
  let ln2l : Float := 0.28235290563031577122588448175013436025525412068e-12
  if x.isNaN || (x.isInf && x > 0) then x
  else if x.isInf then 0.0
  else if x > 7.09782712893384e+02 then 1.0 / 0.0
  else
    let k := roundToInt32 (log2e * x)
    let kf := Float.ofInt k
    let r := fusedNegMulAdd ln2u kf x
    let r := fusedNegMulAdd ln2l kf r
    let r := r * 0.0625
    let y := fusedMulAdd 2.4801587301587301587e-5 r 1.9841269841269841270e-4
    let y := fusedMulAdd y r 1.3888888888888888889e-3
    let y := fusedMulAdd y r 8.3333333333333333333e-3
    let y := fusedMulAdd y r 4.1666666666666666667e-2
    let y := fusedMulAdd y r 1.6666666666666666667e-1
    let y := fusedMulAdd y r 0.5
    let y := fusedMulAdd y r 1.0
    let y := y * r
    let y := (y + 2.0) * y
    let y := (y + 2.0) * y
    let y := (y + 2.0) * y
    let y := fusedMulAdd (y + 2.0) y 1.0
    let biased := k + 1023
    if biased ≥ 2047 then 1.0 / 0.0
    else if biased > 0 then y * Float.ofBits (UInt64.ofNat (biased.toNat * Nat.pow 2 52))
    else if biased < -52 then 0.0
    else
      y * Float.ofBits (UInt64.ofNat ((k + 2045).toNat * Nat.pow 2 52)) *
        Float.ofBits (UInt64.ofNat (Nat.pow 2 52))

end Elementary

end CrowdSim
