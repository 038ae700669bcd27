import CrowdSim.Space.Index
import CrowdSim.Wayfinding.Tuning

/-!
# Routes

A route is an ordered list of waypoints that every pedestrian of a crowd walks in turn. Each
waypoint knows its distance along the route and the leg that leads to it. Once the walls are
known, each waypoint of positive width also gets a target line, the line through it across the
route clipped short of the nearest walls, and a passing area, that line grown into a rectangle.

Consecutive waypoints must be apart by at least `tolerance`. Each waypoint's distance along the
route is the one before plus the leg's length, a sum of doubles: it never drops below the one
before, but a short leg far along the route may add nothing to it.
-/

namespace CrowdSim

/-- A waypoint as given: an id, a position, a width and a waiting period. -/
structure Waypoint where
  id : Int
  position : Vec
  width : Float
  waitingPeriod : Float
  deriving Inhabited

/-- A waypoint placed on a route. -/
structure Stop extends Waypoint where
  /-- The distance from the start of the route. -/
  along : Float
  /-- The leg from the preceding waypoint; none for the first. -/
  connection : Option Segment
  /-- The line through the waypoint across the route, once derived. -/
  targetLine : Option Segment
  /-- The target line grown into a rectangle, once derived; empty otherwise. -/
  passingArea : Polygon
  deriving Inhabited

/-- An ordered list of placed waypoints, with whether its geometry has been derived. -/
structure Route where
  id : Int
  stops : List Stop
  derived : Bool
  deriving Inhabited

/-- Why a list of waypoints makes no route. -/
inductive RouteError where
  /-- A waypoint position has a NaN or infinite coordinate. -/
  | invalidPosition (route waypoint : Int)
  /-- A waypoint has a negative width or waiting period. -/
  | negativeSize (route waypoint : Int)
  /-- Two consecutive waypoints are closer than `tolerance`. -/
  | coincide (route first second : Int)

/-- The text of a route error. -/
def RouteError.message : RouteError → String
  | .invalidPosition r w => s!"route {r}: waypoint {w} has invalid position"
  | .negativeSize r w => s!"route {r}: waypoint {w} has negative width or waiting period"
  | .coincide r a b => s!"route {r}: waypoints {a} and {b} coincide"

/-- Why a route cannot be walked: a waypoint that cannot see the next one, or a pedestrian that
cannot see its first destination. -/
inductive SightError where
  | leg (route first second : Int)
  | start (pedestrian waypoint : Int)

/-- The text of a sight error. -/
def SightError.message : SightError → String
  | .leg r a b => s!"route not visible: route {r} waypoint {a} cannot see waypoint {b}"
  | .start p w => s!"route not visible: pedestrian {p} cannot see waypoint {w}"

namespace Route

/-- Places the waypoints after `prev`, which lies `along` from the start. -/
def place (id : Int) : Option Stop → Float → List Waypoint → Except RouteError (List Stop)
  | _, _, [] => .ok []
  | prev, along, w :: ws =>
    if w.position.isNaN then .error (.invalidPosition id w.id)
    else if w.width < 0.0 || w.waitingPeriod < 0.0 then .error (.negativeSize id w.id)
    else
      match prev with
      | none =>
        let s : Stop := ⟨w, along, none, none, []⟩
        (place id (some s) along ws).map (s :: ·)
      | some p =>
        let step := p.position.dist w.position
        if step < tolerance then .error (.coincide id p.id w.id)
        else
          let along := along + step
          let s : Stop := ⟨w, along, some ⟨p.position, w.position⟩, none, []⟩
          (place id (some s) along ws).map (s :: ·)

/-- The route of a list of waypoints, not yet derived. -/
def make (id : Int) (wps : List Waypoint) : Except RouteError Route :=
  (place id none 0.0 wps).map fun stops => ⟨id, stops, false⟩

/-- The number of waypoints. -/
def len (r : Route) : Nat := r.stops.length

/-- The waypoint at an index. -/
def stop? (r : Route) (i : Nat) : Option Stop := r.stops[i]?

/-- The path length from the first waypoint to the last. -/
def length (r : Route) : Float := (r.stops.getLast?.map (·.along)).getD 0.0

/-- The bounding box of the waypoints; the zero box when there are none. -/
def bound (r : Route) : Box :=
  match r.stops with
  | [] => Box.point Vec.zero
  | s :: ss => Box.ofPoints ((s :: ss).map (·.position))

/-- The legs: each waypoint with the next one. -/
def legs (r : Route) : List (Stop × Stop) := r.stops.zip r.stops.tail

/-- The distance along the route of the point of the path nearest to `p`; the first of equally
near legs counts, and a route of fewer than two waypoints gives zero. -/
def project (r : Route) (p : Vec) : Float :=
  (r.legs.foldl step (1.0 / 0.0, 0.0)).2
where
  /-- Keeps the nearer of the best so far and one more leg. -/
  step (best : Float × Float) (leg : Stop × Stop) : Float × Float :=
    let (a, b) := leg
    let c := (⟨a.position, b.position⟩ : Segment).closest p
    let d := c.dist p
    if d < best.1 then (d, a.along + a.position.dist c) else best

/-- The route direction at a waypoint: the bisector of the incoming and outgoing legs, else the
incoming leg, else straight up. -/
def tangent (prev : Option Stop) (s : Stop) (next : Option Stop) : Vec :=
  let t := Vec.zero
  let t := match prev with
    | some p => t + (s.position - p.position).normalize
    | none => t
  let t := match next with
    | some n => t + (n.position - s.position).normalize
    | none => t
  let t := t.normalize
  if t.isZero then
    match prev with
    | some p => (s.position - p.position).normalize
    | none => ⟨0.0, 1.0⟩
  else t

/-- The segment from `src` to `dst` cut at the nearest wall it meets, `clearance` short of it; the
full segment when nothing is in the way or there are no walls. Over doubles it is the program's;
over exact numbers, the same cut unrounded. -/
def clip {K : Type} [Scalar K] (walls : Option (Index K)) (src dst : Vec K) (clearance : K) :
    Vec K :=
  match walls with
  | none => dst
  | some idx =>
    let ray : Segment K := ⟨src, dst⟩
    let hits := (idx.queryWalls ray.bound).filterMap fun w => ray.intersection w.segment
    let step (acc : K × Bool) (p : Vec K) : K × Bool :=
      let d := src.dist p
      if d ≤ acc.1 then (d, true) else acc
    let (best, hit) := hits.foldl step (ray.length, false)
    if !hit then dst
    else src + ray.direction.scale (Scalar.maxOf (best - clearance) 0.0)

/-- The waypoint with its target line and passing area, given its neighbours. -/
def deriveStop (walls : Option Index) (t : Tuning) (prev : Option Stop) (s : Stop)
    (next : Option Stop) : Stop :=
  let half := s.width / 2.0
  if half < tolerance then s
  else
    let side := (tangent prev s next).perp
    let a := clip walls s.position (s.position + side.scale half) t.targetClearance
    let b := clip walls s.position (s.position - side.scale half) t.targetClearance
    let line : Segment := ⟨a, b⟩
    { s with targetLine := some line, passingArea := line.buffer t.passingAreaBuffer }

/-- Derives each waypoint of a list, knowing the waypoint before it. -/
def deriveAll (walls : Option Index) (t : Tuning) : Option Stop → List Stop → List Stop
  | _, [] => []
  | prev, s :: rest => deriveStop walls t prev s rest.head? :: deriveAll walls t (some s) rest

/-- Builds the target lines and passing areas against the walls (none: nothing is in the way).
A derived route is left as it is. -/
def deriveGeometry (r : Route) (walls : Option Index) (t : Tuning) : Route :=
  if r.derived then r
  else { r with stops := deriveAll walls t none r.stops, derived := true }

/-- Each waypoint can see the next one. -/
def validate (r : Route) (idx : Index) : Option SightError :=
  (r.legs.find? fun (a, b) => !idx.visible a.position b.position).map fun (a, b) =>
    .leg r.id a.id b.id

end Route

end CrowdSim
