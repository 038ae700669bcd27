import CrowdSim.Space.Nearest
import CrowdSim.Wayfinding.RouteFollower

/-!
# Following another pedestrian

A `LeaderFollower` walks toward its leader. With no leader (id zero, or its own id), or once the
leader is no longer in the index, it walks toward the nearest other pedestrian instead. It stops
within the stop distance of whoever it follows, and stands still without an index.
-/

namespace CrowdSim

/-- The state of a pedestrian following another. -/
structure LeaderFollower where
  /-- The follower's own id. -/
  self : Int
  /-- The id of the leader; zero means the nearest other pedestrian. -/
  leader : Int
  tuning : Tuning
  /-- The id followed last tick; zero for none. -/
  following : Int
  /-- The end of the last reported displacement. -/
  last : Vec
  deriving Inhabited

namespace LeaderFollower

/-- A follower of `leader`, not yet following anyone. -/
def init (self leader : Int) (t : Tuning) : LeaderFollower := ⟨self, leader, t, 0, Vec.zero⟩

/-- The pedestrian to walk toward: the leader if it is in the index, else the nearest other. -/
def pick (f : LeaderFollower) (idx : Index) (pos : Vec) : Option Agent :=
  let named := if f.leader != 0 && f.leader != f.self then idx.agent? f.leader else none
  match named with
  | some a => some a
  | none => idx.nearest pos f.self f.tuning.followSearchRadius

/-- One tick: the unit direction toward whoever is followed, zero within the stop distance or
when there is no one; and the state recording whom it followed. -/
def step (f : LeaderFollower) (env : Option Index) (inp : Input) : Vec × LeaderFollower :=
  let f := { f with following := 0 }
  match env with
  | none => (Vec.zero, f)
  | some idx =>
    match f.pick idx inp.position with
    | none => (Vec.zero, f)
    | some a =>
      let f := { f with following := a.id }
      let toLeader := a.position - inp.position
      if toLeader.length ≤ f.tuning.followStopDistance then (Vec.zero, f)
      else (toLeader.normalize, f)

end LeaderFollower

end CrowdSim
