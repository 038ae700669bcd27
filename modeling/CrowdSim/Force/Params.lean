import CrowdSim.Number.Text
import CrowdSim.Number.Scalar

/-!
# Social force parameters

The constants of the social force model: relaxation time, the isotropic and anisotropic
pedestrian repulsion (strength and range), the weight of forces from behind, the boundary
repulsion, the body radius, the least force worth evaluating, and the group constants.

`validate` checks the constants in a fixed order and names the first that is unusable. From
`minForce` come the two cutoffs: the distance beyond which a repulsion `A · e ^ ((c - d) / B)`
falls below `minForce`, namely `c + B · ln (A / minForce)` (just the contact distance `c` when
`A` itself is not above `minForce`).
-/

namespace CrowdSim

/-- The group cohesion constants. -/
structure GroupParams (K : Type := Float) where
  fieldOfView : K
  beta1 : K
  beta2 : K
  beta3 : K
  comfortDistance : K
  deriving Inhabited

/-- The social force constants. Forces act on unit mass. -/
structure ForceParams (K : Type := Float) where
  tau : K
  a1 : K
  b1 : K
  a2 : K
  b2 : K
  lambda : K
  boundaryA : K
  boundaryB : K
  radius : K
  minForce : K
  group : GroupParams K
  deriving Inhabited

/-- Why a parameter set is unusable; each carries the offending value. -/
inductive ParamError (K : Type := Float) where
  | tauNotPositive (got : K)
  | b2NotPositive (got : K)
  | b1NotPositive (got : K)
  | boundaryBNotPositive (got : K)
  | lambdaOutOfRange (got : K)
  | radiusNegative (got : K)
  | minForceNotPositive (got : K)

namespace ParamError

/-- The message of a parameter error. -/
def message (e : ParamError) : String :=
  let v (x : Float) := FloatStyle.message.render x
  "invalid force parameters: " ++
    match e with
    | .tauNotPositive x => "tau must be positive, got " ++ v x
    | .b2NotPositive x => "b2 must be positive, got " ++ v x
    | .b1NotPositive x => "b1 must be positive when a1 is set, got " ++ v x
    | .boundaryBNotPositive x => "boundary_b must be positive, got " ++ v x
    | .lambdaOutOfRange x => "lambda must be within [0,1], got " ++ v x
    | .radiusNegative x => "radius must not be negative, got " ++ v x
    | .minForceNotPositive x => "min_force must be positive, got " ++ v x

end ParamError

namespace GroupParams

/-- The group constants used unless configured otherwise. -/
def default : GroupParams := ⟨1.5707963267948966, 4.0, 3.0, 1.0, 0.8⟩

end GroupParams

namespace ForceParams

/-- A parameter set that gives plausible walking at 0.1 s steps. -/
def default : ForceParams :=
  ⟨0.5, 2.0, 0.3, 3.0, 0.2, 0.3, 10.0, 0.1, 0.25, 0.01, GroupParams.default⟩

section

variable {K : Type} [Scalar K]

/-- The first unusable constant, checked in the order tau, b2, b1 (only when the anisotropic
strength is set), boundary range, lambda, radius, least force. -/
def validate (p : ForceParams K) : Option (ParamError K) :=
  if p.tau ≤ 0.0 then some (.tauNotPositive p.tau)
  else if p.b2 ≤ 0.0 then some (.b2NotPositive p.b2)
  else if p.a1 != 0.0 && p.b1 ≤ 0.0 then some (.b1NotPositive p.b1)
  else if p.boundaryB ≤ 0.0 then some (.boundaryBNotPositive p.boundaryB)
  else if p.lambda < 0.0 || p.lambda > 1.0 then some (.lambdaOutOfRange p.lambda)
  else if p.radius < 0.0 then some (.radiusNegative p.radius)
  else if p.minForce ≤ 0.0 then some (.minForceNotPositive p.minForce)
  else none

/-- The distance beyond which `strength · e ^ ((contact - d) / range)` is below `minForce`. -/
def cutoff (strength range contact minForce : K) : K :=
  if strength ≤ minForce then contact
  else contact + range * Scalar.log (strength / minForce)

/-- The centre distance beyond which pedestrians do not interact. -/
def maxPedestrianDistance (p : ForceParams K) : K :=
  let d := cutoff p.a2 p.b2 (2.0 * p.radius) p.minForce
  if p.a1 != 0.0 then Scalar.maxOf d (cutoff (Scalar.abs p.a1) p.b1 (2.0 * p.radius) p.minForce)
  else d

/-- The distance beyond which a boundary exerts no force. -/
def maxBoundaryDistance (p : ForceParams K) : K :=
  cutoff p.boundaryA p.boundaryB p.radius p.minForce

end

end ForceParams

end CrowdSim
