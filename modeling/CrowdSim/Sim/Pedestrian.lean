import CrowdSim.Force.Model
import CrowdSim.Motion.Scheme
import CrowdSim.Wayfinding.Wayfinder

/-!
# Pedestrians

A pedestrian has a position and velocity, a normal and a maximum walking speed, a wayfinding
model, and the direction and forces of its last tick. One movement step asks the wayfinding model
for a direction, computes the social forces against the tick's frozen index, and lets the
integration scheme advance it; the scheme's trial states re-evaluate the forces with the same
direction, and the committed velocity is capped at the maximum speed.
-/

namespace CrowdSim

/-- A simulated walker. -/
structure Pedestrian where
  id : Int
  /-- The id of the group it belongs to, if any. -/
  group : Option Int
  position : Vec
  velocity : Vec
  normalSpeed : Float
  maxSpeed : Float
  wayfinder : Wayfinder
  /-- The desired walking direction of the last tick. -/
  direction : Vec
  /-- The force components of the last tick. -/
  forces : Components
  deriving Inhabited

/-- Everything shared by the pedestrians moved in one tick. -/
structure TickContext where
  env : Index
  model : ForceModel
  scheme : Scheme
  now : Float
  dt : Float

namespace Pedestrian

/-- A pedestrian at rest outside any group. A negative normal speed becomes zero and the maximum
speed is raised to the normal speed. -/
def make (id : Int) (pos : Vec) (normalSpeed maxSpeed : Float) (m : Wayfinder) : Pedestrian :=
  let normal := Elementary.maxOf normalSpeed 0.0
  ⟨id, none, pos, Vec.zero, normal, Elementary.maxOf maxSpeed normal, m, Vec.zero, Components.zero⟩

/-- The id of its group, or zero. -/
def groupId (p : Pedestrian) : Int := p.group.getD 0

/-- How the index sees the pedestrian. -/
def agent (p : Pedestrian) : Agent := ⟨p.id, p.groupId, p.position, p.velocity⟩

/-- The pedestrian as the force model sees it at a trial state. -/
def subject (p : Pedestrian) (view : GroupView) (pos vel : Vec) : Subject :=
  ⟨p.id, p.groupId, pos, vel, p.direction, p.normalSpeed, p.maxSpeed,
    p.wayfinder.averageSpeed p.normalSpeed, view⟩

/-- Stores an integrated state, the speed capped at a positive maximum speed. -/
def commit (p : Pedestrian) (pos vel : Vec) : Pedestrian :=
  let limit := p.maxSpeed
  let vel := if limit > 0.0 then
      let l := vel.length
      if l > limit then vel.scale (limit / l) else vel
    else vel
  { p with position := pos, velocity := vel }

/-- One movement step: direction, forces, integration; and whether it ran to the end. A
wayfinding tick that breaks off ends the step there: the model keeps the state it reached, and
direction, forces, position and velocity stay as they were. -/
def move (p : Pedestrian) (tc : TickContext) (view : GroupView) : Pedestrian × Bool :=
  let (dir, m) := p.wayfinder.desiredDirection (some tc.env)
    ⟨tc.now, p.position, p.velocity, p.normalSpeed⟩
  match dir with
  | .error _ => ({ p with wayfinder := m }, false)
  | .ok dir =>
    let p := { p with direction := dir, wayfinder := m }
    let p := { p with forces := tc.model.compute (p.subject view p.position p.velocity) (some tc.env) }
    let forceAt (pos vel : Vec) : Vec := (tc.model.compute (p.subject view pos vel) (some tc.env)).total
    match tc.scheme.advance p.forces.total forceAt p.position p.velocity tc.dt with
    | none => (p, true)
    | some a =>
      let p := { p with wayfinder := p.wayfinder.updateSegment p.position a.position }
      (p.commit a.position a.velocity, true)

/-- Both coordinates of the vector are finite. -/
def finite (v : Vec) : Bool := v.x.isFinite && v.y.isFinite

/-- One movement step that keeps the state finite, and whether it succeeded. A step that breaks
off fails; a step ending in a NaN or infinite position or velocity puts them back where they
were (the rest of the step stands) and fails too. -/
def moveChecked (p : Pedestrian) (tc : TickContext) (view : GroupView) : Pedestrian × Bool :=
  match p.move tc view with
  | (q, false) => (q, false)
  | (q, true) =>
    if finite q.position && finite q.velocity then (q, true)
    else ({ q with position := p.position, velocity := p.velocity }, false)

end Pedestrian

end CrowdSim
