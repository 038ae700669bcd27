import CrowdSim.Sim.Crowd
import CrowdSim.Sim.Config
import CrowdSim.Random.Normal
import CrowdSim.Sim.Control

/-!
# The simulation

A simulation owns the spatial index, the worker pool, the crowds, the random source of speed
draws and the engine: the force model and integration scheme used by a tick, replaced as a whole,
each replacement counted by the epoch.

A tick rebuilds the index from every pedestrian, crowds in order, groups in order, members in
order, and then moves each crowd. Every query made while moving therefore sees the positions from
the start of the tick. Time advances by a positive step only.

Routes, crowds, groups and pedestrians made by the simulation are numbered from one in the order
they are made; a failed call still uses up its numbers.
-/

namespace CrowdSim

/-- The force model and integration scheme of a tick, and how often they have been replaced. -/
structure Engine where
  model : ForceModel
  scheme : Scheme
  epoch : Nat
  deriving Inhabited

/-- A summary of one tick. -/
structure TickStats where
  tick : Nat
  /-- The simulation time at the end of the tick. -/
  time : Float
  pedestrians : Nat
  moved : Nat
  /-- The groups the pool refused. -/
  skipped : Nat
  faults : Nat
  epoch : Nat
  deriving Inhabited

/-- The pool counters as reported: workers, running tasks, tasks run, tasks refused. -/
structure PoolStats where
  active : Nat
  total : Nat
  rejected : Nat

/-- The state of a simulation between ticks. -/
structure Simulation where
  config : Config
  index : Index
  pool : Option PoolState
  engine : Engine
  crowds : List Crowd
  rng : Random.Source
  now : Float
  ticks : Nat
  last : TickStats
  nextPedestrian : Nat
  nextGroup : Nat
  nextCrowd : Nat
  nextRoute : Nat
  paused : Bool
  timeScale : Float
  deriving Inhabited

/-- The largest time scale. -/
def maxTimeScale : Float := 10.0

/-- The waiting period of a waypoint that must not wait even when the configuration sets a
default. -/
def noWait : Float := -1.0

namespace Simulation

/-- A simulation built from a configuration, which is checked first. A negative worker count
means groups are moved inline, without a pool. -/
def make (cfg : Config) : Except ConfigError Simulation :=
  match cfg.validate with
  | some e => .error e
  | none =>
    match ForceModel.ofParams cfg.force, Scheme.ofName cfg.integrator with
    | .error e, _ => .error (.force e)
    | _, .error _ => .error (.integrator cfg.integrator)
    | .ok model, .ok scheme =>
      .ok {
        config := cfg
        index := Index.empty cfg.force.maxBoundaryDistance
        pool := if cfg.workers ≥ 0 then some ⟨false, 0, 0⟩ else none
        engine := ⟨model, scheme, 0⟩
        crowds := []
        rng := Random.Source.ofSeed cfg.seed
        now := 0.0
        ticks := 0
        last := ⟨0, 0.0, 0, 0, 0, 0, 0⟩
        nextPedestrian := 0
        nextGroup := 0
        nextCrowd := 0
        nextRoute := 0
        paused := false
        timeScale := 1.0 }

/-- Adds static walls; fails when the wall tree cannot place one. -/
def addBoundaries (s : Simulation) (segs : List Segment) : Except RTree.Fault Simulation :=
  (s.index.addBoundaries segs).map fun idx => { s with index := idx }

/-- The waypoint with the configured defaults filled in: a zero width takes the default width, a
zero waiting period the default period, `noWait` no period, and a zero id its position. -/
def fillWaypoint (cfg : Config) (wp : Waypoint) (i : Nat) : Waypoint :=
  let width := if wp.width == 0.0 then cfg.waypointWidth else wp.width
  let wait := if wp.waitingPeriod == 0.0 then cfg.waitingPeriod
    else if wp.waitingPeriod == noWait then 0.0 else wp.waitingPeriod
  let id := if wp.id == 0 then (i + 1 : Int) else wp.id
  ⟨id, wp.position, width, wait⟩

/-- A new route over the waypoints with defaults filled in, its geometry derived against the
walls present now. The route number is used up even when the waypoints make no route. -/
def newRoute (s : Simulation) (wps : List Waypoint) : Simulation × Except RouteError Route :=
  let s := { s with nextRoute := s.nextRoute + 1 }
  let filled := wps.zipIdx.map fun (wp, i) => fillWaypoint s.config wp i
  match Route.make s.nextRoute filled with
  | .error e => (s, .error e)
  | .ok r => (s, .ok (r.deriveGeometry (some s.index) s.config.wayfinding))

/-- A speed drawn from a distribution, never negative. -/
def sampleSpeed (d : SpeedDistribution) (rng : Random.Source) : Float × Random.Source :=
  let (g, rng) := rng.normal
  (Elementary.maxOf 0.0 (d.mean + d.stdDev * g), rng)

/-- A normal and a maximum speed, the latter never below the former. -/
def sampleSpeeds (s : Simulation) : (Float × Float) × Simulation :=
  let (normal, rng) := sampleSpeed s.config.normalSpeed s.rng
  let (top, rng) := sampleSpeed s.config.maxSpeed rng
  ((normal, Elementary.maxOf normal top), { s with rng := rng })

/-- Why spawning a crowd failed: a pedestrian that cannot walk the route. -/
structure SpawnError where
  crowd : Nat
  cause : SightError

/-- The message of a spawn error. -/
def SpawnError.message (e : SpawnError) : String :=
  "spawn crowd " ++ toString e.crowd ++ ": " ++ e.cause.message

/-- Spawns the members of one group walking `route`, from the next pedestrian number on. -/
def spawnMembers (route : Option Route) :
    List Vec → Simulation → List Pedestrian → Simulation × Except SightError (List Pedestrian)
  | [], s, acc => (s, .ok acc)
  | pos :: rest, s, acc =>
    let s := { s with nextPedestrian := s.nextPedestrian + 1 }
    let id : Int := s.nextPedestrian
    let (f, err) := (RouteFollower.init id s.config.wayfinding).assign route pos s.now
      (some s.index) s.config.strictRoutes
    match err with
    | some e => (s, .error e)
    | none =>
      let ((normal, top), s) := s.sampleSpeeds
      spawnMembers route rest s (acc ++ [Pedestrian.make id pos normal top (.route f)])

/-- Spawns the groups of a crowd. -/
def spawnGroups (route : Option Route) :
    List (List Vec) → Simulation → List Group → Simulation × Except SightError (List Group)
  | [], s, acc => (s, .ok acc)
  | positions :: rest, s, acc =>
    match spawnMembers route positions s [] with
    | (s, .error e) => (s, .error e)
    | (s, .ok members) =>
      let s := { s with nextGroup := s.nextGroup + 1 }
      spawnGroups route rest s (acc ++ [Group.make s.nextGroup members])

/-- Spawns a crowd walking `route`, one group per list of positions, speeds drawn from the
configured distributions. With strict route checking a pedestrian that cannot see its first
waypoint fails the call; the numbers and draws used until then stay used. -/
def spawnCrowd (s : Simulation) (route : Option Route) (groups : List (List Vec)) :
    Simulation × Except SpawnError Crowd :=
  let s := { s with nextCrowd := s.nextCrowd + 1 }
  let crowdId := s.nextCrowd
  match spawnGroups route groups s [] with
  | (s, .error e) => (s, .error ⟨crowdId, e⟩)
  | (s, .ok gs) =>
    let c : Crowd := ⟨crowdId, gs, route⟩
    ({ s with crowds := s.crowds ++ [c] }, .ok c)

/-- Spawns a one-group crowd following `leader` (zero: whoever is nearest). -/
def spawnFollowers (s : Simulation) (leader : Int) (positions : List Vec) : Simulation × Crowd :=
  let s := { s with nextCrowd := s.nextCrowd + 1 }
  let crowdId := s.nextCrowd
  let step (acc : Simulation × List Pedestrian) (pos : Vec) : Simulation × List Pedestrian :=
    let (s, ms) := acc
    let s := { s with nextPedestrian := s.nextPedestrian + 1 }
    let id : Int := s.nextPedestrian
    let f := LeaderFollower.init id leader s.config.wayfinding
    let ((normal, top), s) := s.sampleSpeeds
    (s, ms ++ [Pedestrian.make id pos normal top (.leader f)])
  let (s, members) := positions.foldl step (s, [])
  let s := { s with nextGroup := s.nextGroup + 1 }
  let c : Crowd := ⟨crowdId, [Group.make s.nextGroup members], none⟩
  ({ s with crowds := s.crowds ++ [c] }, c)

/-- Adds a crowd assembled by the caller. -/
def addCrowd (s : Simulation) (c : Crowd) : Simulation := { s with crowds := s.crowds ++ [c] }

/-- Removes every crowd and empties the pedestrian snapshot of the index. -/
def clear (s : Simulation) : Simulation := { s with crowds := [], index := s.index.rebuild [] }

/-- Every pedestrian as the index sees it, in tick order. -/
def agents (s : Simulation) : List Agent :=
  s.crowds.flatMap fun c => c.pedestrians.map (·.agent)

/-- One tick of `dt` seconds starting at time `now`. -/
def tick (s : Simulation) (now dt : Float) : Simulation × TickStats :=
  let eng := s.engine
  let agents := s.agents
  let s := { s with index := s.index.rebuild agents }
  let tc : TickContext := ⟨s.index, eng.model, eng.scheme, now, dt⟩
  let (crowds, pool, st) := s.crowds.foldl (step tc) ([], s.pool, ⟨0, 0, 0⟩)
  let now := if dt > 0.0 then now + dt else now
  let ticks := s.ticks + 1
  let stats : TickStats := ⟨ticks, now, agents.length, st.moved, st.skipped, st.faults, eng.epoch⟩
  ({ s with crowds := crowds, pool := pool, now := now, ticks := ticks, last := stats }, stats)
where
  /-- Moves one more crowd, after the crowds done so far, with the pool and the running counts. -/
  step (tc : TickContext) (acc : List Crowd × Option PoolState × MoveStats) (c : Crowd) :
      List Crowd × Option PoolState × MoveStats :=
    let (done, pool, st) := acc
    let (c, pool, m) := c.move tc pool
    (done ++ [c], pool, ⟨st.moved + m.moved, st.skipped + m.skipped, st.faults + m.faults⟩)

/-- One tick of `dt` seconds from the current time. -/
def step (s : Simulation) (dt : Float) : Simulation × TickStats := s.tick s.now dt

/-- Replaces the engine, counting the replacement. -/
def swap (s : Simulation) (update : Engine → Engine) : Simulation :=
  let e := update s.engine
  { s with engine := { e with epoch := s.engine.epoch + 1 } }

/-- Installs an integration scheme from the next tick on. -/
def setScheme (s : Simulation) (sc : Scheme) : Simulation := s.swap fun e => { e with scheme := sc }

/-- Installs the scheme of a name and answers the new epoch; an unknown name is refused and
changes nothing. -/
def setSchemeByName (s : Simulation) (name : String) : Simulation × Except String Nat :=
  match Scheme.ofName name with
  | .error e => (s, .error e)
  | .ok sc =>
    let s := s.setScheme sc
    (s, .ok s.engine.epoch)

/-- Installs a force model from the next tick on. Wall boxes keep the padding of construction. -/
def setForceModel (s : Simulation) (m : ForceModel) : Simulation :=
  s.swap fun e => { e with model := m }

/-- Stops or resumes running. -/
def setPaused (s : Simulation) (p : Bool) : Simulation := { s with paused := p }

/-- Sets the simulated seconds per wall-clock second, clamped to `[0, maxTimeScale]`; NaN is
zero. -/
def setTimeScale (s : Simulation) (scale : Float) : Simulation :=
  let scale := if scale < 0.0 || scale.isNaN then 0.0
    else if scale > maxTimeScale then maxTimeScale else scale
  { s with timeScale := scale }

/-- The current knob values. -/
def controlState (s : Simulation) : ControlState :=
  ⟨s.engine.scheme.name, s.paused, s.timeScale, s.engine.epoch⟩

/-- Applies control settings. An unknown scheme name is refused before anything changes; a known
one different from the current scheme replaces it. The scheme, the pause and the time scale are
set in that order, each a separate step of the program (see `Broadcast.Server`). -/
def applyControl (s : Simulation) (cs : ControlSettings) : Simulation × Except String ControlState :=
  let named : Except String (Option Scheme) :=
    if cs.integrator == "" then .ok none
    else match Scheme.ofName cs.integrator with
      | .ok sc => .ok (some sc)
      | .error e => .error ("apply control: " ++ e)
  match named with
  | .error e => (s, .error e)
  | .ok sc =>
    let s := match sc with
      | some sc => if sc.name != s.engine.scheme.name then s.setScheme sc else s
      | none => s
    let s := match cs.paused with
      | some p => s.setPaused p
      | none => s
    let s := match cs.timeScale with
      | some t => s.setTimeScale t
      | none => s
    (s, .ok s.controlState)

/-- Stops the worker pool: every later task is refused. -/
def close (s : Simulation) : Simulation :=
  { s with pool := s.pool.map fun p => { p with closed := true } }

/-- The pool counters; all zero without a pool. -/
def poolStats (s : Simulation) : PoolStats :=
  match s.pool with
  | some p => ⟨0, p.total, p.rejected⟩
  | none => ⟨0, 0, 0⟩

end Simulation

end CrowdSim
