import CrowdSim.Wayfinding.Route

/-!
# Following a route

A `RouteFollower` walks the waypoints of a route in order. On assignment the waypoints that lie
behind the pedestrian's projection onto the route count as visited and the first one ahead is the
destination. Each tick it returns the direction it holds. It re-orients, that is, picks a new
target point for the destination, when asked to, after passing a waypoint, after drifting off
course, or when progress along the route is too slow. Orientation tries, in order:

1. the previous target, if the pedestrian has hardly moved since and little time has passed;
2. the point of the target line nearest to the pedestrian, if visible;
3. the nearest visible sample of the target line;
4. the visible sample of the incoming leg with the shortest path through it;
5. the place where orientation last succeeded.

If none is visible the pedestrian is lost and stands still until a later orientation succeeds.

A displacement that crosses the destination's passing area (or, for an underived waypoint, ends
in a box around it) passes the waypoint. The next unvisited waypoint becomes the destination, and
a waypoint with a waiting period holds the pedestrian until it has run out. After waiting, the
waypoints left behind meanwhile are marked visited.

The follower also tracks its average velocity along the route: the length of the legs it has
completed plus its signed progress on the current one, over the time since assignment.

A value guarded by a flag is an `Option` here: `aim` stands for the target point, its time and
origin together with the flag that a target is held, and `lastGood` for the last good place and
its flag. Assignment clears both flags but leaves the old point, time and place in the fields,
where only the target accessor still returns them (beside a false flag); every decision reads
them only while the flag is set. Clearing the option drops those stale values, so the model
answers `none` where the accessor would return the stale point with its false flag. The
average velocity keeps its raw value and flag side by side, because its accessor reads the raw
value whatever the flag says.
-/

namespace CrowdSim

/-- A target point and when and where it was chosen. -/
structure Aim where
  point : Vec
  time : Float
  origin : Vec
  deriving Inhabited

/-- The per-tick input of a wayfinding model. -/
structure Input where
  now : Float
  position : Vec
  velocity : Vec
  normalSpeed : Float
  deriving Inhabited

/-- The state of a pedestrian walking a route. -/
structure RouteFollower where
  /-- The pedestrian's id. -/
  pedestrian : Int
  tuning : Tuning
  route : Option Route
  /-- No route, or an empty one, is assigned. -/
  inert : Bool
  /-- The index of the waypoint walked to; none when the route is finished. -/
  dest : Option Nat
  /-- The indices of the passed waypoints, in passing order. -/
  visited : List Nat
  /-- The passed waypoints as a set, which `visit` and `nextUnvisited` consult. -/
  visitedSet : Nat → Bool
  now : Float
  waiting : Bool
  waitUntil : Float
  needsOrientation : Bool
  courseDeviation : Bool
  /-- A waypoint was passed since the last orientation. -/
  passed : Bool
  lost : Bool
  /-- The held walking direction. -/
  direction : Vec
  aim : Option Aim
  lastGood : Option Vec
  lastDeviationCheck : Float
  lastOrientationTime : Float
  startTime : Float
  /-- The length of the completed legs. -/
  completed : Float
  /-- The start of the leg toward the destination. -/
  segStart : Vec
  average : Float
  hasAverage : Bool
  deriving Inhabited

namespace RouteFollower

/-- An unassigned follower for pedestrian `id`. -/
def init (id : Int) (t : Tuning) : RouteFollower where
  pedestrian := id
  tuning := t
  route := none
  inert := true
  dest := none
  visited := []
  visitedSet := fun _ => false
  now := 0.0
  waiting := false
  waitUntil := 0.0
  needsOrientation := false
  courseDeviation := false
  passed := false
  lost := false
  direction := Vec.zero
  aim := none
  lastGood := none
  lastDeviationCheck := 0.0
  lastOrientationTime := 0.0
  startTime := 0.0
  completed := 0.0
  segStart := Vec.zero
  average := 0.0
  hasAverage := false

/-- The waypoints of the assigned route; none without one. -/
def stops (f : RouteFollower) : List Stop := (f.route.map (·.stops)).getD []

/-- The destination waypoint; none when finished or without a route. -/
def destination (f : RouteFollower) : Option Stop :=
  if f.inert then none else f.dest.bind fun i => f.stops[i]?

/-- Every waypoint has been visited, or no route is assigned. -/
def finished (f : RouteFollower) : Bool := f.inert || f.dest.isNone

/-- A waiting period is running at time `now`. -/
def isWaiting (f : RouteFollower) (now : Float) : Bool := f.waiting && now < f.waitUntil

/-- The ids of the passed waypoints, in passing order. -/
def visitedIds (f : RouteFollower) : List Int :=
  f.visited.filterMap fun i => f.stops[i]?.map (·.id)

/-- The average velocity along the route, if any time has passed since assignment. -/
def averageVelocity? (f : RouteFollower) : Option Float :=
  if f.hasAverage then some f.average else none

/-- Marks a waypoint visited, once: added to the set and to the end of the list. -/
def visit (f : RouteFollower) (i : Nat) : RouteFollower :=
  if f.visitedSet i then f
  else { f with visitedSet := fun j => j == i || f.visitedSet j, visited := f.visited ++ [i] }

/-- The first waypoint at or after index `i` that the set does not hold. -/
def nextUnvisited (f : RouteFollower) (i : Nat) : Option Nat :=
  ((List.range f.stops.length).drop i).find? fun j => !f.visitedSet j

/-- Starts following `r` from `pos` at time `now`, against the walls of `env`. The assignment is
applied in every case; when the route is not walkable from here, the result also carries why,
if `strict`. -/
def assign (f : RouteFollower) (r : Option Route) (pos : Vec) (now : Float) (env : Option Index)
    (strict : Bool) : RouteFollower × Option SightError :=
  let f := { f with
    route := r, visited := [], visitedSet := fun _ => false, dest := none, waiting := false,
    lost := false, aim := none, lastGood := none, courseDeviation := false, passed := false,
    direction := Vec.zero,
    now := now, startTime := now, lastOrientationTime := now, lastDeviationCheck := now,
    completed := 0.0, segStart := pos, hasAverage := false }
  match r with
  | none => ({ f with inert := true }, none)
  | some route =>
    if route.stops.isEmpty then ({ f with inert := true }, none)
    else
      let along := route.project pos
      let indexed := route.stops.zipIdx
      let f := { f with inert := false }
      let f := indexed.foldl (fun g (s, i) => if s.along < along then g.visit i else g) f
      let dest := (indexed.find? fun (s, _) => !(s.along < along)).map (·.2)
      let f := { f with dest := dest, needsOrientation := dest.isSome }
      match env, dest.bind fun i => route.stops[i]? with
      | some idx, some target =>
        let err := match route.validate idx with
          | some e => some e
          | none =>
            if idx.visible pos target.position then none
            else some (.start f.pedestrian target.id)
        (f, if strict then err else none)
      | _, _ => (f, none)

/-- Completes the leg into waypoint `i`. -/
def completeSegment (f : RouteFollower) (i : Nat) : RouteFollower :=
  match f.stops[i]? with
  | none => f
  | some s =>
    let f := f.visit i
    { f with completed := f.completed + f.segStart.dist s.position, segStart := s.position }

/-- Marks visited the waypoints behind `along`, from the destination on, with `fuel` steps. -/
def skipBehind (along : Float) : Nat → RouteFollower → RouteFollower
  | 0, f => f
  | fuel + 1, f =>
    match f.dest with
    | none => f
    | some i =>
      match f.stops[i]? with
      | some s =>
        if s.along < along then
          let f := f.completeSegment i
          skipBehind along fuel { f with dest := f.nextUnvisited (i + 1) }
        else f
      | none => f

/-- After waiting: marks the waypoints that fell behind and asks for a fresh orientation. -/
def rederive (f : RouteFollower) (pos : Vec) : RouteFollower :=
  let along := (f.route.map fun r => r.project pos).getD 0.0
  { skipBehind along f.stops.length f with needsOrientation := true }

/-- Updates the average velocity along the route. -/
def trackProgress (f : RouteFollower) (inp : Input) : RouteFollower :=
  let elapsed := inp.now - f.startTime
  if elapsed ≤ tolerance then f
  else
    let progress := match f.destination with
      | some s =>
        let dir := (s.position - f.segStart).normalize
        f.completed + (inp.position - f.segStart).dot dir
      | none => f.completed
    { f with average := progress / elapsed, hasAverage := true }

/-- The candidate with the least cost among the visible ones; the first of equal ones. -/
def bestVisible (visible : Vec → Bool) (cost : Vec → Float) (pts : List Vec) : Option Vec :=
  (pts.foldl step (1.0 / 0.0, none)).2
where
  /-- Keeps the better of the best so far and one more candidate. -/
  step (acc : Float × Option Vec) (p : Vec) : Float × Option Vec :=
    let d := cost p
    if d < acc.1 && visible p then (d, some p) else acc

/-- The target found afresh for waypoint `s` from `pos`: the nearest point of the target line
if visible, else the nearest visible sample of the line, else the visible sample of the incoming
leg with the shortest path through it. It fails when a sample it needs cannot be taken. -/
def freshTarget (s : Stop) (visible : Vec → Bool) (pos : Vec) (step : Float) :
    Except SampleError (Option Vec) :=
  let line := s.targetLine.getD ⟨s.position, s.position⟩
  let nearest := line.closest pos
  if visible nearest then .ok (some nearest)
  else do
    let onLine ← line.sample step
    match bestVisible visible (fun p => pos.dist p) onLine with
    | some p => pure (some p)
    | none =>
      match s.connection with
      | some conn => do
        let onLeg ← conn.sample step
        pure (bestVisible visible (fun p => pos.dist p + p.dist s.position) onLeg)
      | none => pure none

/-- Whether a pedestrian at `pos` sees `p` past the walls of `env`; everything without walls. -/
def sightFrom (env : Option Index) (pos p : Vec) : Bool :=
  match env with
  | none => true
  | some idx => idx.visible pos p

/-- Resolves a new target for waypoint `s` from `pos` at time `now`, seeing the points `visible`
admits, and the direction toward it; fails, changing nothing, when a sample cannot be taken. -/
def orientTo (f : RouteFollower) (s : Stop) (visible : Vec → Bool) (pos : Vec) (now : Float) :
    Except SampleError RouteFollower := do
  let t := f.tuning
  let reused := match f.aim with
    | some a =>
      if !f.passed && !f.courseDeviation && pos.dist a.origin ≤ t.hysteresisDistance &&
        now - a.time ≤ t.hysteresisTime then some a.point else none
    | none => none
  let found ← match reused with
    | some p => pure (some p)
    | none => freshTarget s visible pos (s.width / Elementary.maxOf t.samplingDivisor 1.0)
  let fallback : Option Vec := match found, f.lastGood with
    | none, some g => if pos.dist g > tolerance && visible g then some g else none
    | _, _ => none
  let f := { f with
    needsOrientation := false, courseDeviation := false, passed := false,
    lastOrientationTime := now }
  match found, fallback with
  | none, none => pure { f with lost := true, needsOrientation := true, direction := Vec.zero }
  | _, _ =>
    let target := (found.orElse fun _ => fallback).getD Vec.zero
    let f := { f with lost := false }
    let f := if reused.isSome then f else { f with aim := some ⟨target, now, pos⟩ }
    let f := if fallback.isSome then f else { f with lastGood := some pos }
    let dir := (target - pos).normalize
    let dir := if dir.isZero then (s.position - pos).normalize else dir
    pure { f with direction := dir }

/-- Re-orients toward the destination, if there is one. -/
def orient (f : RouteFollower) (env : Option Index) (pos : Vec) (now : Float) :
    Except SampleError RouteFollower :=
  match f.destination with
  | some s => f.orientTo s (sightFrom env pos) pos now
  | none => .ok f

/-- Checks the held direction against the target, at most once per check interval. -/
def checkCourse (f : RouteFollower) (inp : Input) : RouteFollower :=
  match f.aim with
  | some a =>
    if inp.now - f.lastDeviationCheck ≥ f.tuning.deviationCheckInterval then
      let f := { f with lastDeviationCheck := inp.now }
      let required := a.point - inp.position
      if !required.isZero &&
          Vec.angleBetween f.direction required > f.tuning.courseDeviationThreshold then
        { f with courseDeviation := true }
      else f
    else f
  | none => f

/-- The part of a tick after any waiting: progress, orientation and the course check; the
direction held. An orientation that cannot take its samples breaks the tick off with the state
reached before it. -/
def advance (f : RouteFollower) (env : Option Index) (inp : Input) :
    Except SampleError Vec × RouteFollower :=
  let f := f.trackProgress inp
  let t := f.tuning
  let slow := f.hasAverage && inp.now - f.startTime ≥ t.slowProgressDelay &&
    inp.now - f.lastOrientationTime ≥ t.orientationInterval &&
    f.average < t.slowProgressFactor * inp.normalSpeed
  let f := if slow then { f with needsOrientation := true } else f
  let oriented := if f.needsOrientation || f.courseDeviation || f.passed then
    f.orient env inp.position inp.now else .ok f
  match oriented with
  | .error e => (.error e, f)
  | .ok f =>
    let f := f.checkCourse inp
    (.ok f.direction, f)

/-- One tick: the direction the pedestrian wants to walk, zero while waiting, finished, lost or
without a route, or the fault that broke the tick off; and the new state. -/
def step (f : RouteFollower) (env : Option Index) (inp : Input) :
    Except SampleError Vec × RouteFollower :=
  let f := { f with now := inp.now }
  if f.finished then (.ok Vec.zero, f)
  else if f.waiting then
    if inp.now < f.waitUntil then (.ok Vec.zero, f)
    else
      let f := { f with waiting := false }.rederive inp.position
      if f.dest.isNone then (.ok Vec.zero, f)
      else f.advance env inp
  else f.advance env inp

/-- The displacement `move` passes waypoint `s`: it crosses the passing area, else meets the
target line, else ends in the box around the waypoint grown by its width. -/
def passes (s : Stop) (move : Segment) : Bool :=
  if !s.passingArea.isEmpty then move.crossesPolygon s.passingArea
  else match s.targetLine with
    | some line => move.intersects line
    | none =>
      (Box.point s.position).pad (Elementary.maxOf s.width tolerance) |>.contains move.b

/-- Reports the displacement from `src` to `dst` about to be committed: passing the destination
visits it, moves on to the next unvisited waypoint and starts its waiting period. -/
def updateSegment (f : RouteFollower) (src dst : Vec) : RouteFollower :=
  if f.waiting then f
  else match f.dest, f.destination with
    | some i, some s =>
      if !passes s ⟨src, dst⟩ then f
      else
        let f := f.completeSegment i
        let f := { f with dest := f.nextUnvisited (i + 1), passed := true }
        if s.waitingPeriod > 0.0 then
          { f with waiting := true, waitUntil := f.now + s.waitingPeriod }
        else f
    | _, _ => f

end RouteFollower

end CrowdSim
