import CrowdSim.Plane.Box

/-!
# Rings and polygons

A ring is a closed list of points (its last point repeats its first); a polygon is an outer
ring followed by holes. Containment counts the boundary in, and is decided by casting a ray
toward `+x` and counting the edges it crosses, after a bounding-box test. A ray through a vertex
is moved to the next double to the right of it, so that each vertex is counted once.
-/

namespace CrowdSim

/-- A closed ring of points. -/
abbrev Ring := List Vec

/-- An outer ring followed by its holes. -/
abbrev Polygon := List Ring

/-- The next double after `x` toward `+∞`. -/
def Elementary.nextUp (x : Float) : Float :=
  if x.isNaN then x
  else if x.isInf && x > 0 then x
  else if x == 0.0 then Float.ofBits 1
  else if x > 0.0 then Float.ofBits (x.toBits + 1)
  else Float.ofBits (x.toBits - 1)

namespace Ring

/-- Where a ray from `p` toward `+x` meets the edge from `s` to `e`: whether it crosses it, and
whether `p` lies on it. -/
def rayMeets (p s e : Vec) : Bool × Bool :=
  let (s, e) := if s.x > e.x then (e, s) else (s, e)
  let px? : Option Float :=
    if p.x == s.x then
      if p.y == s.y then none
      else if s.x == e.x &&
          ((s.y > e.y && s.y ≥ p.y && p.y ≥ e.y) || (e.y > s.y && e.y ≥ p.y && p.y ≥ s.y)) then
        none
      else some (Elementary.nextUp p.x)
    else if p.x == e.x then
      if p.y == e.y then none else some (Elementary.nextUp p.x)
    else some p.x
  match px? with
  | none => (false, true)
  | some px =>
    if px < s.x || px > e.x then (false, false)
    else
      let above :=
        if s.y > e.y then (if p.y > s.y then some false else if p.y < e.y then some true else none)
        else (if p.y > e.y then some false else if p.y < s.y then some true else none)
      match above with
      | some c => (c, false)
      | none =>
        let rs := (p.y - s.y) / (px - s.x)
        let ds := (e.y - s.y) / (e.x - s.x)
        if rs == ds then (false, true) else (rs ≤ ds, false)

/-- Counts crossings edge by edge; `none` once the point is found on an edge. -/
def crossings (p : Vec) : List Vec → Bool → Option Bool
  | a :: b :: rest, c =>
    let (inter, on) := rayMeets p a b
    if on then none else crossings p (b :: rest) (if inter then !c else c)
  | _, c => some c

/-- The point lies inside the ring or on its boundary. -/
def contains (r : Ring) (p : Vec) : Bool :=
  if !(Box.ofPoints r).contains p then false
  else
    match r.head?, r.getLast? with
    | some first, some last =>
      let (c0, on) := rayMeets p first last
      if on then true
      else (crossings p r c0).getD true
    | _, _ => false

end Ring

namespace Polygon

/-- The point lies in the outer ring and in no hole; boundaries count as inside the ring they
bound. -/
def contains (poly : Polygon) (p : Vec) : Bool :=
  match poly with
  | [] => false
  | outer :: holes => outer.contains p && !holes.any (·.contains p)

end Polygon

end CrowdSim
