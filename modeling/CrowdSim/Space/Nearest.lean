import CrowdSim.Space.Index

/-!
# The nearest other pedestrian

`Index.nearest` finds the pedestrian closest to a point, other than a given id. It searches the
square of half-side `radius` around the point and doubles the radius until the nearest hit lies
within the square's inscribed circle, or until the square holds as many hits as there are
distinct pedestrians, at most 32 times.

Of hits at the same distance the first in query order wins, since a later hit replaces the best
only when strictly nearer. A hit at an infinite or NaN distance never counts.
-/

namespace CrowdSim

namespace Index

/-- The number of times the search radius may double. -/
def searchDoublings : Nat := 32

variable {K : Type} [Scalar K]

/-- The hit nearest to `pos` among those whose id is not `self`, with its distance; only a
strictly nearer hit replaces an earlier one. -/
def closestHit (pos : Vec K) (self : Int) (hits : List (Agent K)) : Option (Agent K × K) :=
  hits.foldl step none
where
  /-- Keeps the better of the best so far and one more hit. -/
  step (best : Option (Agent K × K)) (a : Agent K) : Option (Agent K × K) :=
    if a.id == self then best
    else
      let d := pos.dist a.position
      -- before the first hit the bound is `+∞`
      let nearer := match best with
        | some (_, bd) => decide (d < bd)
        | none => Scalar.belowInfinity d
      if nearer then some (a, d) else best

/-- The search with `fuel` doublings left, from `radius`. -/
def nearestWithin (idx : Index K) (pos : Vec K) (self : Int) (total : Nat) :
    Nat → K → Option (Agent K)
  | 0, _ => none
  | fuel + 1, radius =>
    let hits := idx.queryAgents ((Box.point pos).pad radius)
    let best := closestHit pos self hits
    match best with
    | some (a, d) =>
      if d ≤ radius then some a
      else if hits.length ≥ total then some a
      else nearestWithin idx pos self total fuel (radius * 2.0)
    | none =>
      if hits.length ≥ total then none
      else nearestWithin idx pos self total fuel (radius * 2.0)

/-- The pedestrian nearest to `pos` other than `self`, searching from `radius` (a radius that is
not positive starts at one). -/
def nearest (idx : Index K) (pos : Vec K) (self : Int) (radius : K) : Option (Agent K) :=
  let radius := if radius ≤ 0.0 then 1.0 else radius
  idx.nearestWithin pos self idx.countAgents searchDoublings radius

end Index

end CrowdSim
