import CrowdSim.Number.Scalar

/-!
# Vectors of the plane

Positions (m), velocities (m/s) and forces on unit mass (m/s²) are all `Vec`. Every operation is
a fixed sequence of scalar operations, component by component; the norm is `Scalar.hypot`
(`Elementary.hypot` on doubles). Lengths below `tolerance` count as zero.

Coordinates are doubles unless a scalar type is named: `Vec` is `Vec Float`, and the same
definitions over exact numbers give the unrounded geometry.
-/

namespace CrowdSim

/-- The smallest distance or magnitude treated as nonzero. -/
def tolerance {K : Type} [Scalar K] : K := 1e-9

/-- A vector or point of the plane. -/
structure Vec (K : Type := Float) where
  x : K
  y : K
  deriving Inhabited

namespace Vec

variable {K : Type} [Scalar K]

/-- The zero vector. -/
def zero : Vec K := ⟨0.0, 0.0⟩

instance : Add (Vec K) := ⟨fun a b => ⟨a.x + b.x, a.y + b.y⟩⟩
instance : Sub (Vec K) := ⟨fun a b => ⟨a.x - b.x, a.y - b.y⟩⟩

/-- Scales both components. -/
def scale (v : Vec K) (s : K) : Vec K := ⟨v.x * s, v.y * s⟩

/-- The dot product `x₁x₂ + y₁y₂`. -/
def dot (v w : Vec K) : K := v.x * w.x + v.y * w.y

/-- The cross product `x₁y₂ - y₁x₂`. -/
def cross (v w : Vec K) : K := v.x * w.y - v.y * w.x

/-- The squared length. -/
def lengthSq (v : Vec K) : K := v.x * v.x + v.y * v.y

/-- The length, as the norm of the two components. -/
def length (v : Vec K) : K := Scalar.hypot v.x v.y

/-- The distance between two points. -/
def dist (v w : Vec K) : K := Scalar.hypot (v.x - w.x) (v.y - w.y)

/-- The vector turned a quarter to the left, `(-y, x)`. -/
def perp (v : Vec K) : Vec K := ⟨-v.y, v.x⟩

/-- Shorter than `tolerance`, judged on the squared length. -/
def isZero (v : Vec K) : Bool := v.lengthSq < tolerance * tolerance

/-- Both components equal as doubles (so `0` and `-0` agree and NaN never does). -/
def equal (v w : Vec K) : Bool := v.x == w.x && v.y == w.y

/-- The point a fraction `t` of the way to `w`. -/
def lerp (v w : Vec K) (t : K) : Vec K := ⟨v.x + (w.x - v.x) * t, v.y + (w.y - v.y) * t⟩

/-- A component is NaN or infinite. -/
def isNaN (v : Vec K) : Bool := !(Scalar.isFinite v.x && Scalar.isFinite v.y)

/-- The unit vector in the direction of `v`, or zero when `v` is shorter than `tolerance`. -/
def normalize (v : Vec K) : Vec K :=
  let l := v.length
  if l < tolerance then zero else ⟨v.x / l, v.y / l⟩

/-- The unsigned angle between two vectors, in `[0, π]`; zero when either is shorter than
`tolerance`. The cosine is clamped to `[-1, 1]` before the inverse cosine. -/
def angleBetween (a b : Vec K) : K :=
  let la := a.length
  let lb := b.length
  if la < tolerance || lb < tolerance then 0.0
  else
    let c := a.dot b / (la * lb)
    let c := if c > 1.0 then 1.0 else if c < -1.0 then -1.0 else c
    Scalar.acos c

/-- The running sum of the points times `1 / n`; zero for no points. -/
def centroid (pts : List (Vec K)) : Vec K :=
  match pts with
  | [] => zero
  | _ => (pts.foldl (· + ·) zero).scale (1.0 / Scalar.ofNat pts.length)

theorem add_def (a b : Vec K) : a + b = ⟨a.x + b.x, a.y + b.y⟩ := rfl

theorem sub_def (a b : Vec K) : a - b = ⟨a.x - b.x, a.y - b.y⟩ := rfl

end Vec

end CrowdSim
