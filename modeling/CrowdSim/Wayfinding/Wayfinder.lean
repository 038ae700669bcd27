import CrowdSim.Wayfinding.LeaderFollower

/-!
# Wayfinding models

A pedestrian decides which way it wants to walk with one of two models, or with none: walking a
route, or following another pedestrian. The functions here dispatch on the model, so that nothing
else needs to know which one a pedestrian carries.
-/

namespace CrowdSim

/-- The wayfinding model of a pedestrian. -/
inductive Wayfinder where
  | none
  | route (f : RouteFollower)
  | leader (f : LeaderFollower)
  deriving Inhabited

namespace Wayfinder

/-- The name of the model. -/
def kind : Wayfinder → String
  | .none => "none"
  | .route _ => "follow-route"
  | .leader _ => "follow-pedestrian"

/-- The unit direction the model wants to walk this tick, or zero, or the fault that broke the
tick off; and the new model. -/
def desiredDirection (m : Wayfinder) (env : Option Index) (inp : Input) :
    Except SampleError Vec × Wayfinder :=
  match m with
  | .none => (.ok Vec.zero, .none)
  | .route f => let (d, f) := f.step env inp; (d, .route f)
  | .leader f => let (d, f) := f.step env inp; (.ok d, .leader f)

/-- Reports the displacement the pedestrian is about to commit. -/
def updateSegment (m : Wayfinder) (src dst : Vec) : Wayfinder :=
  match m with
  | .none => .none
  | .route f => .route (f.updateSegment src dst)
  | .leader f => .leader { f with last := dst }

/-- The average velocity along the route, or `fallback` for a model that tracks none. -/
def averageSpeed (m : Wayfinder) (fallback : Float) : Float :=
  match m with
  | .route f => f.averageVelocity?.getD fallback
  | _ => fallback

/-- The model has nothing left to do: a finished route, or no model. A follower never finishes. -/
def finished : Wayfinder → Bool
  | .none => true
  | .route f => f.finished
  | .leader _ => false

end Wayfinder

end CrowdSim
