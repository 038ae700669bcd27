import CrowdSim.Plane.Polygon

/-!
# Segments

A straight segment from `a` to `b`, with the measurements the simulation takes of it: nearest
point, distance, evenly spaced samples, the intersection tests (with `tolerance` slack, so
touching and collinear overlap count), the crossing point, the buffer rectangle and the test
against a polygon. The bounding box, nearest point, orientation and intersection tests are
written over any scalar type; the rest on doubles.
-/

namespace CrowdSim

/-- A segment from `a` to `b`. -/
structure Segment (K : Type := Float) where
  a : Vec K
  b : Vec K
  deriving Inhabited

/-- The truncation of a double to a 64-bit integer as the processor does it: NaN and values
outside the range give `-2 ^ 63`. -/
def Elementary.truncInt64 (x : Float) : Int :=
  if x.isNaN || x ≥ 9223372036854775808.0 || x < -9223372036854775808.0 then -9223372036854775808
  else (x.toInt64).toInt

/-- The most points a sample may hold: a point takes sixteen bytes and the heap spans
`2 ^ 48` bytes. -/
def maxSamplePoints : Int := 17592186044416

/-- Why a sample cannot be taken: its point count is negative, because the ratio of length to
step is NaN or beyond the 64-bit range, or larger than `maxSamplePoints`. -/
inductive SampleError where
  | capacity
  deriving DecidableEq, Repr

/-- The text of the runtime fault a failed sample raises. -/
def SampleError.message : SampleError → String
  | .capacity => "runtime error: makeslice: cap out of range"

namespace Segment

section

variable {K : Type} [Scalar K]

/-- The distance between the ends. -/
def length (s : Segment K) : K := s.a.dist s.b

/-- The unit vector from `a` to `b`, zero if the ends coincide. -/
def direction (s : Segment K) : Vec K := (s.b - s.a).normalize

/-- The bounding box. -/
def bound (s : Segment K) : Box K :=
  ⟨⟨Scalar.minOf s.a.x s.b.x, Scalar.minOf s.a.y s.b.y⟩,
    ⟨Scalar.maxOf s.a.x s.b.x, Scalar.maxOf s.a.y s.b.y⟩⟩

/-- The point of the segment nearest to `p`, through the clamped projection parameter. -/
def closest (s : Segment K) (p : Vec K) : Vec K :=
  let d := s.b - s.a
  let l2 := d.lengthSq
  if l2 < tolerance * tolerance then s.a
  else
    let t := (p - s.a).dot d / l2
    if t ≤ 0.0 then s.a
    else if t ≥ 1.0 then s.b
    else s.a + d.scale t

/-- The turn of `c` seen along `a → b`: the cross product of `b - a` and `c - a`. -/
def orient (a b c : Vec K) : K := (b - a).cross (c - a)

/-- `p` lies in the box of `a` and `b` grown by `tolerance`. -/
def withinSpan (a b p : Vec K) : Bool :=
  Scalar.minOf a.x b.x - tolerance ≤ p.x && p.x ≤ Scalar.maxOf a.x b.x + tolerance &&
    Scalar.minOf a.y b.y - tolerance ≤ p.y && p.y ≤ Scalar.maxOf a.y b.y + tolerance

/-- The two segments share a point: they cross strictly, or an end lies on the other segment
within `tolerance`. -/
def intersects (s o : Segment K) : Bool :=
  let d1 := orient o.a o.b s.a
  let d2 := orient o.a o.b s.b
  let d3 := orient s.a s.b o.a
  let d4 := orient s.a s.b o.b
  let apart (u v : K) := (u > tolerance && v < -tolerance) || (u < -tolerance && v > tolerance)
  (apart d1 d2 && apart d3 d4) ||
    (Scalar.abs d1 ≤ tolerance && withinSpan o.a o.b s.a) ||
    (Scalar.abs d2 ≤ tolerance && withinSpan o.a o.b s.b) ||
    (Scalar.abs d3 ≤ tolerance && withinSpan s.a s.b o.a) ||
    (Scalar.abs d4 ≤ tolerance && withinSpan s.a s.b o.b)

/-- The crossing point of two segments that are not parallel, both parameters within
`tolerance` of `[0, 1]`. -/
def intersection (s o : Segment K) : Option (Vec K) :=
  let r := s.b - s.a
  let q := o.b - o.a
  let den := r.cross q
  if Scalar.abs den < tolerance then none
  else
    let t := (o.a - s.a).cross q / den
    let u := (o.a - s.a).cross r / den
    if t < -tolerance || t > 1.0 + tolerance || u < -tolerance || u > 1.0 + tolerance then none
    else some (s.a + r.scale t)

end

/-- The distance from `p` to the segment, from the squared distance to the clamped projection,
where a degenerate segment is its first end. -/
def distanceTo (s : Segment) (p : Vec) : Float :=
  let dx := s.b.x - s.a.x
  let dy := s.b.y - s.a.y
  let (x, y) :=
    if dx != 0.0 || dy != 0.0 then
      let t := ((p.x - s.a.x) * dx + (p.y - s.a.y) * dy) / (dx * dx + dy * dy)
      if t > 1.0 then (s.b.x, s.b.y)
      else if t > 0.0 then (s.a.x + dx * t, s.a.y + dy * t)
      else (s.a.x, s.a.y)
    else (s.a.x, s.a.y)
  let ex := p.x - x
  let ey := p.y - y
  Float.sqrt (ex * ex + ey * ey)

/-- Points `step` apart from `a`, the last one clamped to `b`: `⌈length / step⌉ + 1` of them.
A degenerate segment gives its first end, a nonpositive step both ends. The count is taken as a
64-bit integer and must lie between zero and `maxSamplePoints`. -/
def sample (s : Segment) (step : Float) : Except SampleError (List Vec) :=
  let l := s.length
  if step ≤ 0.0 || l < tolerance then
    .ok (if l < tolerance then [s.a] else [s.a, s.b])
  else
    let n := Elementary.truncInt64 (Float.ceil (l / step))
    if n + 1 < 0 || n + 1 > maxSamplePoints then .error .capacity
    else
      .ok ((List.range (n + 1).toNat).map fun i =>
        let t := i.toFloat * step / l
        s.a.lerp s.b (if t > 1.0 then 1.0 else t))

/-- The rectangle around the segment extended by `d` on every side, as a closed ring of five
points; a degenerate segment is taken to point along `+x`. -/
def buffer (s : Segment) (d : Float) : Polygon :=
  let dir := s.direction
  let dir := if dir.isZero then ⟨1.0, 0.0⟩ else dir
  let n := dir.perp.scale d
  let a := s.a - dir.scale d
  let b := s.b + dir.scale d
  [[a + n, b + n, b - n, a - n, a + n]]

/-- The edges of a ring, each from a point to the next. -/
def ringEdges : List Vec → List Segment
  | p :: q :: rest => ⟨p, q⟩ :: ringEdges (q :: rest)
  | _ => []

/-- The segment has an end inside the polygon or meets one of its edges. -/
def crossesPolygon (s : Segment) (poly : Polygon) : Bool :=
  match poly with
  | [] => false
  | _ =>
    poly.contains s.a || poly.contains s.b ||
      poly.any fun ring => (ringEdges ring).any s.intersects

end Segment

end CrowdSim
