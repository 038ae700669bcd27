import CrowdSim.Sim.Pedestrian

/-!
# Bodies and the calls a scheme makes on them

A scheme moves a body only through its calls: it reads the position and the velocity, reads the
net force of the tick, re-evaluates the force at a trial state (Runge–Kutta only), reports the
displacement it is about to commit, and commits the new position and velocity. `Body σ` gives
these calls over the body's own state `σ`, and any of them may change that state: a body that
counts its force evaluations is a body too. `Scheme.move` is one step of a scheme written against
the calls, in the order the scheme makes them.

`Body.recorded` does what a body does and keeps a transcript of the calls, each with its
arguments and the answer it got. `Body.ofReads` builds a body whose reads leave its state as it
is; a pedestrian is moved as such a body (`Pedestrian.body`), whose reports go to its wayfinding
model and whose commit caps the speed.
-/

namespace CrowdSim

/-- The calls a scheme may make on the body it moves, over the body's state `σ`. -/
structure Body (σ : Type) where
  position : StateM σ Vec
  velocity : StateM σ Vec
  /-- The net force already computed for this tick. -/
  force : StateM σ Vec
  /-- The force re-evaluated at a trial position and velocity. -/
  forceAt : Vec → Vec → StateM σ Vec
  /-- Told the displacement about to be committed, from the old to the new position. -/
  updateSegment : Vec → Vec → StateM σ Unit
  /-- Stores the new position and velocity together. -/
  commit : Vec → Vec → StateM σ Unit

/-- A call made on a body, with its arguments and, for a read, the answer it got. -/
inductive Call where
  | position (answer : Vec)
  | velocity (answer : Vec)
  | force (answer : Vec)
  | forceAt (pos vel answer : Vec)
  | updateSegment (src dst : Vec)
  | commit (pos vel : Vec)

namespace Body

variable {σ : Type}

/-- Reports the displacement from `old` to `pos`, then commits `pos` and `vel`. -/
def commitFrom (b : Body σ) (old pos vel : Vec) : StateM σ Unit := do
  b.updateSegment old pos
  b.commit pos vel

/-- Runs `m` on the body's state and writes the call `c` of its answer to the transcript. -/
def record {α : Type} (c : α → Call) (m : StateM σ α) : StateM (σ × List Call) α :=
  fun (s, log) =>
    let (a, s') := m.run s
    (a, (s', log ++ [c a]))

@[simp] theorem record_run {α : Type} (c : α → Call) (m : StateM σ α) (s : σ) (log : List Call) :
    (record c m).run (s, log) = ((m.run s).1, ((m.run s).2, log ++ [c (m.run s).1])) :=
  rfl

@[simp] theorem record_bind_run {α β : Type} (c : α → Call) (m : StateM σ α)
    (k : α → StateM (σ × List Call) β) (s : σ) (log : List Call) :
    (record c m >>= k).run (s, log) =
      (k (m.run s).1).run ((m.run s).2, log ++ [c (m.run s).1]) :=
  rfl

/-- The body that does what `b` does and writes each call it receives, in order, to a
transcript. -/
def recorded (b : Body σ) : Body (σ × List Call) where
  position := record .position b.position
  velocity := record .velocity b.velocity
  force := record .force b.force
  forceAt pos vel := record (.forceAt pos vel) (b.forceAt pos vel)
  updateSegment src dst := record (fun _ => .updateSegment src dst) (b.updateSegment src dst)
  commit pos vel := record (fun _ => .commit pos vel) (b.commit pos vel)

/-- The body whose reads leave its state as it is: they are functions of the state, and only a
report or a commit changes it. -/
def ofReads (position velocity force : σ → Vec) (forceAt : σ → Vec → Vec → Vec)
    (updateSegment : σ → Vec → Vec → σ) (commit : σ → Vec → Vec → σ) : Body σ where
  position := fun s => (position s, s)
  velocity := fun s => (velocity s, s)
  force := fun s => (force s, s)
  forceAt pos vel := fun s => (forceAt s pos vel, s)
  updateSegment src dst := fun s => ((), updateSegment s src dst)
  commit pos vel := fun s => ((), commit s pos vel)

end Body

namespace Scheme

variable {σ : Type}

/-- The trial state reached from `pos` and `vel` by following the slope `k`, a velocity and a
force, for `h` seconds. -/
def trial (pos vel : Vec) (k : Vec × Vec) (h : Float) : Vec × Vec :=
  (pos + k.1.scale h, vel + k.2.scale h)

/-- One step of `dt` of the body, made through its calls. A step that is not positive makes no
call at all; a NaN step moves. -/
def move (sch : Scheme) (b : Body σ) (dt : Float) : StateM σ Unit :=
  if dt ≤ 0.0 then pure ()
  else do
    let pos ← b.position
    let vel ← b.velocity
    match sch with
    | .euler =>
      let f ← b.force
      b.commitFrom pos (pos + vel.scale dt) (vel + f.scale dt)
    | .semiImplicitEuler =>
      let f ← b.force
      let v := vel + f.scale dt
      b.commitFrom pos (pos + v.scale dt) v
    | .rungeKutta =>
      let half := dt / 2.0
      let f ← b.force
      let (x2, v2) := trial pos vel (vel, f) half
      let a2 ← b.forceAt x2 v2
      let (x3, v3) := trial pos vel (v2, a2) half
      let a3 ← b.forceAt x3 v3
      let (x4, v4) := trial pos vel (v3, a3) dt
      let a4 ← b.forceAt x4 v4
      let sixth := dt / 6.0
      b.commitFrom pos (pos + (vel + v2.scale 2.0 + v3.scale 2.0 + v4).scale sixth)
        (vel + (f + a2.scale 2.0 + a3.scale 2.0 + a4).scale sixth)

/-- The calls a step of `dt` makes on the body `b` from the state `s`, in order. -/
def transcript (sch : Scheme) (b : Body σ) (s : σ) (dt : Float) : List Call :=
  ((sch.move b.recorded dt).run (s, [])).2.2

end Scheme

namespace Pedestrian

/-- The pedestrian as the scheme of the tick moves it: its reads are its own position, velocity
and force, a trial state re-evaluates the force model with the pedestrian's direction, a report
goes to its wayfinding model, and a commit caps the speed. -/
def body (tc : TickContext) (view : GroupView) : Body Pedestrian :=
  Body.ofReads (·.position) (·.velocity) (·.forces.total)
    (fun p pos vel => (tc.model.compute (p.subject view pos vel) (some tc.env)).total)
    (fun p src dst => { p with wayfinder := p.wayfinder.updateSegment src dst })
    (fun p pos vel => p.commit pos vel)

end Pedestrian

end CrowdSim
