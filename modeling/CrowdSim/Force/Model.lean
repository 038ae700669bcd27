import CrowdSim.Force.Params
import CrowdSim.Space.Index

/-!
# The social force model

The force on a pedestrian of unit mass is the sum of four terms:

* the intrinsic drive, relaxing the velocity toward the desired velocity over `tau`;
* the pedestrian repulsion, `A₂ e ^ ((2r - d) / B₂)` along the line of centres from every
  neighbour within the cutoff, plus an anisotropic `A₁` term weighted by
  `λ + (1 - λ)(1 + cos φ) / 2`, `φ` between the heading and the bearing toward the neighbour;
* the boundary repulsion, `A_b e ^ ((r - d) / B_b)` away from the nearest point of each wall;
* the group force: a field-of-view penalty, attraction toward the group centroid and repulsion
  from mates closer than the comfort distance.

Neighbours and walls come from the tick's `Index`. The model reads nothing else, so the force on
one pedestrian does not depend on the order in which others are evaluated. A term with a NaN or
infinite component is replaced by zero in `compute`.
-/

namespace CrowdSim

/-- What a pedestrian knows about its own group this tick. -/
structure GroupView (K : Type := Float) where
  size : Nat
  centroid : Vec K
  /-- The positions of the other members. -/
  mates : List (Vec K)
  deriving Inhabited

/-- The pedestrian whose forces are computed. -/
structure Subject (K : Type := Float) where
  id : Int
  groupId : Int
  position : Vec K
  velocity : Vec K
  /-- The unit vector the wayfinding model wants to walk in, or zero. -/
  direction : Vec K
  normalSpeed : K
  maxSpeed : K
  /-- The average velocity along the route so far. -/
  averageSpeed : K
  group : GroupView K
  deriving Inhabited

/-- Every force term computed for one pedestrian in one tick. -/
structure Components (K : Type := Float) where
  intrinsic : Vec K
  pedestrian : Vec K
  boundary : Vec K
  group : Vec K
  extrinsic : Vec K
  total : Vec K
  deriving Inhabited

namespace Components

/-- All terms zero. -/
def zero {K : Type} [Scalar K] : Components K := ⟨Vec.zero, Vec.zero, Vec.zero, Vec.zero, Vec.zero, Vec.zero⟩

end Components

/-- The model: its parameters and the two cutoffs derived from them. -/
structure ForceModel (K : Type := Float) where
  params : ForceParams K
  maxPedestrian : K
  maxBoundary : K
  deriving Inhabited

namespace ForceModel

variable {K : Type} [Scalar K]

/-- The model of a parameter set, or the reason it is unusable. -/
def ofParams (p : ForceParams K) : Except (ParamError K) (ForceModel K) :=
  match p.validate with
  | some e => .error e
  | none => .ok ⟨p, p.maxPedestrianDistance, p.maxBoundaryDistance⟩

/-- The desired speed: the normal speed, blended toward the maximum by the impatience
`1 - average / normal`, clamped to `[0, 1]` (zero when it is NaN). -/
def desiredSpeed (_m : ForceModel K) (s : Subject K) : K :=
  let maxSpeed := Scalar.maxOf s.maxSpeed 0.0
  let normal := Scalar.minOf (Scalar.maxOf s.normalSpeed 0.0) maxSpeed
  if normal ≤ 0.0 then 0.0
  else
    let imp := 1.0 - s.averageSpeed / normal
    let imp := if Scalar.isNaN imp then 0.0 else imp
    let imp := Scalar.minOf (Scalar.maxOf imp 0.0) 1.0
    (1.0 - imp) * normal + imp * maxSpeed

/-- The drive toward the desired velocity; toward standing still when there is no direction or
no speed, and none at all when the maximum speed is not positive. -/
def intrinsic (m : ForceModel K) (s : Subject K) : Vec K :=
  if s.maxSpeed ≤ 0.0 then Vec.zero
  else
    let dir := s.direction.normalize
    let speed := m.desiredSpeed s
    if dir.isZero || speed ≤ 0.0 then s.velocity.scale (-1.0 / m.params.tau)
    else (dir.scale speed - s.velocity).scale (1.0 / m.params.tau)

/-- The direction the pedestrian faces: its velocity if moving, else where it wants to go. -/
def heading (s : Subject K) : Vec K :=
  let e := s.velocity.normalize
  if !e.isZero then e else s.direction.normalize

/-- The repulsion of one more agent added to `f`, for a subject facing `e`: none from the subject
itself or from an agent beyond the pedestrian cutoff. Two agents at one point are pushed apart
along `x`, the smaller id toward `-x`. -/
def pedestrianStep (m : ForceModel K) (s : Subject K) (e : Vec K) (f : Vec K) (other : Agent K) :
    Vec K :=
  let p := m.params
  let contact := 2.0 * p.radius
  if other.id == s.id then f
  else
    let diff := s.position - other.position
    let d := diff.length
    if d > m.maxPedestrian then f
    else
      let (d, nij) : K × Vec K :=
        if d < tolerance then (tolerance, if s.id < other.id then ⟨-1.0, 0.0⟩ else ⟨1.0, 0.0⟩)
        else (d, diff.scale (1.0 / d))
      let f := f + nij.scale (p.a2 * Scalar.exp ((contact - d) / p.b2))
      if p.a1 != 0.0 then
        let cosPhi := -(nij.dot e)
        let w := p.lambda + (1.0 - p.lambda) * (1.0 + cosPhi) / 2.0
        f + nij.scale (p.a1 * Scalar.exp ((contact - d) / p.b1) * w)
      else f

/-- The repulsion from every other agent within the pedestrian cutoff, summed in query order. -/
def pedestrianTerm (m : ForceModel K) (s : Subject K) (idx : Option (Index K)) : Vec K :=
  match idx with
  | none => Vec.zero
  | some idx =>
    let box := (Box.point s.position).pad m.maxPedestrian
    (idx.queryAgents box).foldl (m.pedestrianStep s (heading s)) Vec.zero

/-- The repulsion of one more wall added to `f`, from the wall's point nearest the subject; none
from a wall beyond the boundary cutoff. A wall through the position pushes along its left
normal. -/
def boundaryStep (m : ForceModel K) (s : Subject K) (f : Vec K) (w : Wall K) : Vec K :=
  let p := m.params
  let nearest := w.segment.closest s.position
  let diff := s.position - nearest
  let d := diff.length
  if d > m.maxBoundary then f
  else
    let (d, niw) : K × Vec K :=
      if d < tolerance then
        let n := w.segment.direction.perp
        (tolerance, if n.isZero then ⟨1.0, 0.0⟩ else n)
      else (d, diff.scale (1.0 / d))
    f + niw.scale (p.boundaryA * Scalar.exp ((p.radius - d) / p.boundaryB))

/-- The repulsion from the nearest point of every wall whose box holds the position, summed in
query order. -/
def boundaryTerm (m : ForceModel K) (s : Subject K) (idx : Option (Index K)) : Vec K :=
  match idx with
  | none => Vec.zero
  | some idx => (idx.queryWalls (Box.point s.position)).foldl (m.boundaryStep s) Vec.zero

/-- The group force: zero for a lone or standing pedestrian. Otherwise a penalty against the
velocity when the centroid lies outside the field of view, attraction toward a centroid farther
than `(size - 1) / 2`, and repulsion from each mate inside the comfort distance (mates at the
same point excepted). -/
def groupTerm (m : ForceModel K) (s : Subject K) : Vec K :=
  if s.group.size < 2 || s.velocity.isZero then Vec.zero
  else
    let gp := m.params.group
    let toCentroid := s.group.centroid - s.position
    let dist := toCentroid.length
    let f :=
      if dist > tolerance then
        let alpha := Vec.angleBetween s.velocity toCentroid
        let f := if alpha > gp.fieldOfView then
            Vec.zero + s.velocity.scale (-gp.beta1 * (alpha - gp.fieldOfView))
          else Vec.zero
        let threshold := Scalar.ofNat (s.group.size - 1) / 2.0
        if dist > threshold then f + toCentroid.scale (gp.beta2 / dist) else f
      else Vec.zero
    let step (f : Vec K) (mate : Vec K) : Vec K :=
      let away := s.position - mate
      let d := away.length
      if d ≥ gp.comfortDistance then f
      else if d < tolerance then f
      else f + away.scale (gp.beta3 / d)
    s.group.mates.foldl step f

/-- A term with a NaN or infinite component becomes zero. -/
def sanitize (v : Vec K) : Vec K := if v.isNaN then Vec.zero else v

/-- All force terms, each sanitized, with the extrinsic sum and the total. -/
def compute (m : ForceModel K) (s : Subject K) (idx : Option (Index K)) : Components K :=
  let intr := sanitize (m.intrinsic s)
  let ped := sanitize (m.pedestrianTerm s idx)
  let bnd := sanitize (m.boundaryTerm s idx)
  let grp := sanitize (m.groupTerm s)
  let ext := ped + bnd + grp
  ⟨intr, ped, bnd, grp, ext, ext + intr⟩

end ForceModel

end CrowdSim
