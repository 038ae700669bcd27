import CrowdSim.Number.Elementary

/-!
# Scalars

The plane geometry, the spatial index and the force model are written once over a number type
`K` that carries the operations they use (`Scalar`). The simulation runs them on doubles, where
each operation is the one Go performs: `hypot` is `math.Hypot` (`Elementary.hypot`), `minOf` and
`maxOf` are `math.Min` and `math.Max`, and so on. Read over exact numbers, the same definitions
say what the code computes when nothing is rounded.

Besides the field operations, literals and comparisons (`==` being the equality of numbers, under
which `0 == -0` and NaN equals nothing), a scalar type gives the elementary functions the code
calls, the tests for NaN and for a finite value, and the conversion of a count.
-/

namespace CrowdSim

/-- A number type the geometry is computed in. -/
class Scalar (K : Type) extends Add K, Sub K, Mul K, Div K, Neg K, LT K, LE K, BEq K,
    OfScientific K, Inhabited K where
  /-- `<` is decided. -/
  decLt : DecidableRel (α := K) (· < ·)
  /-- `≤` is decided. -/
  decLe : DecidableRel (α := K) (· ≤ ·)
  /-- The absolute value. -/
  abs : K → K
  /-- The length of the vector `(x, y)`. -/
  hypot : K → K → K
  /-- The exponential. -/
  exp : K → K
  /-- The natural logarithm. -/
  log : K → K
  /-- The inverse cosine. -/
  acos : K → K
  /-- The smaller of two numbers. -/
  minOf : K → K → K
  /-- The larger of two numbers. -/
  maxOf : K → K → K
  /-- The value is not a number. -/
  isNaN : K → Bool
  /-- The value is neither NaN nor infinite. -/
  isFinite : K → Bool
  /-- A count as a number. -/
  ofNat : Nat → K

namespace Scalar

instance (priority := low) instDecidableLt {K : Type} [Scalar K] (a b : K) : Decidable (a < b) :=
  Scalar.decLt a b

instance (priority := low) instDecidableLe {K : Type} [Scalar K] (a b : K) : Decidable (a ≤ b) :=
  Scalar.decLe a b

/-- The number is below `+∞`: it is finite, or negative (which takes in `-∞`). -/
def belowInfinity {K : Type} [Scalar K] (x : K) : Bool := Scalar.isFinite x || decide (x < 0.0)

end Scalar

/-- Doubles, with the operations of Go's `math` package. -/
instance : Scalar Float where
  decLt := fun a b => Float.decLt a b
  decLe := fun a b => Float.decLe a b
  abs := Float.abs
  hypot := Elementary.hypot
  exp := Elementary.exp
  log := Elementary.log
  acos := Elementary.acos
  minOf := Elementary.minOf
  maxOf := Elementary.maxOf
  isNaN := Float.isNaN
  isFinite := Float.isFinite
  ofNat := Nat.toFloat

end CrowdSim
