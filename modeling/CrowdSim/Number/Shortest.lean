import CrowdSim.Number.Binary64

/-!
# Shortest decimal digits

For a positive finite double `v` the printer needs the decimal with the fewest significant digits
that reads back as `v`, and of those the one nearest to `v`. All of it is exact arithmetic on
naturals: `v` is `V / D`, and the reals that read back as `v` form the interval between the two
midpoints to its neighbours, `L / D` and `H / D`, ends included exactly when the significand is
even (reading rounds a tie to the even significand).

For `n = 1, 2, …, 17` significant digits the grid is `10 ^ k` with `k = E + 1 - n`, where
`E = ⌊log₁₀ v⌋`. Only the two grid points around `v` can be the answer on that grid; the first
grid on which one of them lies in the interval gives the digits, the nearer of the two if both
do, and the even one of two at the same distance.
-/

namespace CrowdSim

/-- A positive decimal `digits · 10 ^ exponent`. -/
structure Decimal where
  digits : Nat
  exponent : Int
  deriving Repr, DecidableEq

namespace Decimal

/-- Drops trailing zero digits into the exponent. -/
def strip (d : Decimal) : Decimal :=
  if 0 < d.digits ∧ d.digits % 10 = 0 then
    strip ⟨d.digits / 10, d.exponent + 1⟩
  else d
termination_by d.digits
decreasing_by all_goals omega

/-- The decimal digits, most significant first; empty for zero. -/
def digitList (n : Nat) : List Nat :=
  if n = 0 then [] else digitList (n / 10) ++ [n % 10]
termination_by n
decreasing_by omega

/-- The digit characters of the significand. -/
def digitChars (d : Decimal) : List Char :=
  (digitList d.digits).map fun i => Char.ofNat (48 + i)

/-- The position of the decimal point counted from the left of the digits: the value is
`0.d₁d₂…dₙ · 10 ^ point`. -/
def point (d : Decimal) : Int := (digitList d.digits).length + d.exponent

end Decimal

namespace Shortest

/-- Compares `c · 10 ^ k` with the ratio `x / d`. -/
def compareScaled (c : Nat) (k : Int) (x d : Nat) : Ordering :=
  match k with
  | .ofNat k => compare (c * Nat.pow 10 k * d) x
  | .negSucc k => compare (c * d) (x * Nat.pow 10 (k + 1))

/-- `⌊(x / d) / 10 ^ k⌋`. -/
def floorScaled (x d : Nat) (k : Int) : Nat :=
  match k with
  | .ofNat k => x / (d * Nat.pow 10 k)
  | .negSucc k => x * Nat.pow 10 (k + 1) / d

/-- The reals that read back as one double: `low / den` to `high / den`, both ends included
when `closed`, around the value `value / den`. -/
structure Interval where
  value : Nat
  low : Nat
  high : Nat
  den : Nat
  closed : Bool

/-- The rounding interval of the positive double `m · 2 ^ q`. The gap below is half as wide when
`m` is the least normal significand of its binade, since the neighbour below lies in the binade
under it. -/
def interval (m : Nat) (q : Int) : Interval :=
  let (s, t) : Nat × Nat := match q with
    | .ofNat e => (Nat.pow 2 e, 1)
    | .negSucc e => (1, Nat.pow 2 (e + 1))
  let lowGap := if m = Nat.pow 2 52 ∧ q > -1074 then 1 else 2
  ⟨4 * m * s, (4 * m - lowGap) * s, (4 * m + 2) * s, 4 * t, m % 2 == 0⟩

/-- The grid point `c · 10 ^ k` reads back as the double. -/
def Interval.holds (i : Interval) (c : Nat) (k : Int) : Bool :=
  let lo := compareScaled c k i.low i.den
  let hi := compareScaled c k i.high i.den
  (lo == .gt || (i.closed && lo == .eq)) && (hi == .lt || (i.closed && hi == .eq))

/-- `10 ^ e ≤ v`. -/
def Interval.powAtMost (i : Interval) (e : Int) : Bool :=
  compareScaled 1 e i.value i.den != .gt

/-- `⌊log₁₀ v⌋`, from the binary exponent: `⌊log₂ v⌋ · 78913 / 2 ^ 18` is within one of it, and
the exact comparisons settle the last step. -/
def decimalExponent (i : Interval) (m : Nat) (q : Int) : Int :=
  let guess : Int := ((Nat.log2 m : Int) + q) * 78913 / 262144
  let tries : List Int := [guess + 2, guess + 1, guess, guess - 1, guess - 2]
  (tries.find? i.powAtMost).getD (guess - 3)

/-- The answer on the grid `10 ^ k`, if one of the two grid points around the value reads
back: the nearer one, and of two at the same distance the even one. -/
def onGrid (i : Interval) (k : Int) : Option Decimal :=
  let c := floorScaled i.value i.den k
  let downOk := i.holds c k
  let upOk := i.holds (c + 1) k
  if downOk && upOk then
    match compareScaled (2 * c + 1) k (2 * i.value) i.den with
    | .gt => some ⟨c, k⟩
    | .lt => some ⟨c + 1, k⟩
    | .eq => some (if c % 2 == 0 then ⟨c, k⟩ else ⟨c + 1, k⟩)
  else if downOk then some ⟨c, k⟩
  else if upOk then some ⟨c + 1, k⟩
  else none

/-- The shortest nearest decimal of the positive double `m · 2 ^ q`. Seventeen digits always
suffice; the fallback after them is the exact floor, which is never reached for a double. -/
def digitsOf (m : Nat) (q : Int) : Decimal :=
  let i := interval m q
  let e := decimalExponent i m q
  let found := (List.range 17).findSome? fun (n : Nat) => onGrid i (e - n)
  (found.getD ⟨floorScaled i.value i.den (e - 16), e - 16⟩).strip

end Shortest

/-- The shortest decimal that reads back as the magnitude of a finite nonzero double. -/
def Binary64.shortest (b : Binary64) : Decimal :=
  Shortest.digitsOf b.significand b.exponent

end CrowdSim
