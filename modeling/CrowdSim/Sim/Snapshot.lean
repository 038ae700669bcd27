import CrowdSim.Sim.Simulation

/-!
# Snapshots

A snapshot is a copy of the simulation between two ticks: the last tick's summary, the knobs, and
the state of every pedestrian, crowds in order. For a pedestrian walking a route it records the
destination (zero for none), how many waypoints it has passed, whether it is waiting at the
current time and until when, and whether it is lost.
-/

namespace CrowdSim

/-- The read-only view of one pedestrian after a tick. -/
structure PedestrianState where
  id : Int
  groupId : Int
  crowdId : Int
  position : Vec
  velocity : Vec
  direction : Vec
  forces : Components
  wayfinding : String
  /-- The id of the waypoint walked to; zero for none. -/
  destination : Int
  visited : Nat
  waiting : Bool
  /-- The end of the running wait; zero when not waiting. -/
  waitUntil : Float
  lost : Bool
  finished : Bool
  deriving Inhabited

/-- A consistent copy of the simulation between two ticks. -/
structure Snapshot where
  stats : TickStats
  control : ControlState
  pedestrians : List PedestrianState
  deriving Inhabited

namespace Simulation

/-- The view of one pedestrian of crowd `c`. -/
def pedestrianState (s : Simulation) (c : Crowd) (p : Pedestrian) : PedestrianState :=
  let base : PedestrianState :=
    ⟨p.id, p.groupId, c.id, p.position, p.velocity, p.direction, p.forces, p.wayfinder.kind,
      0, 0, false, 0.0, false, p.wayfinder.finished⟩
  match p.wayfinder with
  | .route f =>
    let waiting := f.isWaiting s.now
    { base with
      destination := (f.destination.map (·.id)).getD 0
      visited := f.visitedIds.length
      waiting := waiting
      waitUntil := if waiting then f.waitUntil else 0.0
      lost := f.lost }
  | _ => base

/-- The snapshot of the simulation. -/
def snapshot (s : Simulation) : Snapshot :=
  ⟨s.last, s.controlState, s.crowds.flatMap fun c => c.pedestrians.map (s.pedestrianState c)⟩

end Simulation

end CrowdSim
