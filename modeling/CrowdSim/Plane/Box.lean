import CrowdSim.Plane.Vec

/-!
# Axis-aligned boxes

A `Box` is a closed axis-aligned rectangle given by two corners. Boxes are built from points by
extension, grown by padding, and tested for containment with the boundary counted in. A box
whose minimum exceeds its maximum is empty for containment; the empty box of no points is the
one from `(1, 1)` to `(-1, -1)`.
-/

namespace CrowdSim

/-- A closed axis-aligned box. -/
structure Box (K : Type := Float) where
  min : Vec K
  max : Vec K
  deriving Inhabited

namespace Box

variable {K : Type} [Scalar K]

/-- The degenerate box at one point. -/
def point (p : Vec K) : Box K := ⟨p, p⟩

/-- The box of no points. -/
def empty : Box K := ⟨⟨1.0, 1.0⟩, ⟨-1.0, -1.0⟩⟩

/-- The point lies in the box, its boundary included. -/
def contains (b : Box K) (p : Vec K) : Bool :=
  !(p.y < b.min.y || b.max.y < p.y) && !(p.x < b.min.x || b.max.x < p.x)

/-- The box grown to take in a point; unchanged if it already does. -/
def extend (b : Box K) (p : Vec K) : Box K :=
  if b.contains p then b
  else ⟨⟨Scalar.minOf b.min.x p.x, Scalar.minOf b.min.y p.y⟩,
    ⟨Scalar.maxOf b.max.x p.x, Scalar.maxOf b.max.y p.y⟩⟩

/-- The bounding box of a list of points, starting from the first. -/
def ofPoints : List (Vec K) → Box K
  | [] => empty
  | p :: ps => (p :: ps).foldl extend (point p)

/-- The box grown by `d` on every side. -/
def pad (b : Box K) (d : K) : Box K :=
  ⟨⟨b.min.x - d, b.min.y - d⟩, ⟨b.max.x + d, b.max.y + d⟩⟩

end Box

end CrowdSim
