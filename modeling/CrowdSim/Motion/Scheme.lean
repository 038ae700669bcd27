import CrowdSim.Plane.Vec
import CrowdSim.Text.Quote

/-!
# Integration schemes

A scheme advances a body of unit mass by a time step: from its position, velocity and the net
force of the tick to a new position and velocity. The explicit Euler scheme moves with the old
velocity, the semi-implicit one with the new velocity, and the classic fourth-order Runge–Kutta
scheme re-evaluates the force at three trial states.

`Scheme.advance` returns the trial states at which the force was re-evaluated, in order, with the
result; a step that is not positive moves nothing (a NaN step does move). The caller reports the
displacement and then stores the new state.
-/

namespace CrowdSim

/-- The built-in integration schemes. -/
inductive Scheme where
  | euler
  | semiImplicitEuler
  | rungeKutta
  deriving DecidableEq, Repr, Inhabited

namespace Scheme

/-- The name of a scheme. -/
def name : Scheme → String
  | .euler => "euler"
  | .semiImplicitEuler => "semi-implicit-euler"
  | .rungeKutta => "runge-kutta"

/-- The scheme used unless another is chosen. -/
def default : Scheme := .semiImplicitEuler

/-- The scheme of a name; the empty name is the default one. -/
def ofName? (n : String) : Option Scheme :=
  if n == "" || n == "semi-implicit-euler" then some .semiImplicitEuler
  else if n == "euler" then some .euler
  else if n == "runge-kutta" then some .rungeKutta
  else none

/-- The message for a name that is no scheme. -/
def unknownMessage (n : String) : String := "unknown integrator " ++ quoted n

/-- The scheme of a name, or the message that it is unknown. -/
def ofName (n : String) : Except String Scheme :=
  match ofName? n with
  | some s => .ok s
  | none => .error (unknownMessage n)

theorem ofName?_name (s : Scheme) : ofName? s.name = some s := by
  cases s <;> rfl

end Scheme

/-- The result of one step: the trial states at which the force was re-evaluated, and the new
position and velocity. -/
structure Advance where
  probes : List (Vec × Vec)
  position : Vec
  velocity : Vec
  deriving Inhabited

namespace Scheme

/-- One step of `dt` from `pos` and `vel` under the tick's force `force`, with `forceAt` the
force at a trial state; `none` when `dt ≤ 0`. -/
def advance (s : Scheme) (force : Vec) (forceAt : Vec → Vec → Vec) (pos vel : Vec) (dt : Float) :
    Option Advance :=
  if dt ≤ 0.0 then none
  else
    match s with
    | .euler => some ⟨[], pos + vel.scale dt, vel + force.scale dt⟩
    | .semiImplicitEuler =>
      let v := vel + force.scale dt
      some ⟨[], pos + v.scale dt, v⟩
    | .rungeKutta =>
      let half := dt / 2.0
      let k1x := vel
      let k1v := force
      let x2 := pos + k1x.scale half
      let v2 := vel + k1v.scale half
      let k2x := v2
      let k2v := forceAt x2 v2
      let x3 := pos + k2x.scale half
      let v3 := vel + k2v.scale half
      let k3x := v3
      let k3v := forceAt x3 v3
      let x4 := pos + k3x.scale dt
      let v4 := vel + k3v.scale dt
      let k4x := v4
      let k4v := forceAt x4 v4
      let sixth := dt / 6.0
      let newPos := pos + (k1x + k2x.scale 2.0 + k3x.scale 2.0 + k4x).scale sixth
      let newVel := vel + (k1v + k2v.scale 2.0 + k3v.scale 2.0 + k4v).scale sixth
      some ⟨[(x2, v2), (x3, v3), (x4, v4)], newPos, newVel⟩

end Scheme

end CrowdSim
