/-!
# Control knobs

The knobs a viewer may turn while a simulation runs: the integration scheme by name, pausing,
and the time scale, with the engine epoch that counts replacements of the engine. A viewer sends
partial updates and receives the full state back.
-/

namespace CrowdSim

/-- The runtime knobs. -/
structure ControlState where
  integrator : String
  paused : Bool
  timeScale : Float
  epoch : Nat
  deriving Inhabited

/-- A partial update of the knobs: an empty scheme name and absent fields change nothing. -/
structure ControlSettings where
  integrator : String
  paused : Option Bool
  timeScale : Option Float
  deriving Inhabited

end CrowdSim
