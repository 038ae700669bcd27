import CrowdSim.Sim.Run

/-!
# The corridor scene

The demonstration scene: a corridor fifty metres long and six wide, closed at its start, with a
square pillar in the middle, and a route of four waypoints along it (a narrow one beside the
pillar, a waiting one after it). Pedestrians are placed near the start in groups of one to three,
side by side 0.6 m apart, group anchors drawn uniformly from a seeded source; two followers of the
first pedestrian start behind them.
-/

namespace CrowdSim

namespace Corridor

/-- The corridor walls and the pillar. -/
def walls : List Segment :=
  [⟨⟨0.0, 0.0⟩, ⟨50.0, 0.0⟩⟩, ⟨⟨0.0, 6.0⟩, ⟨50.0, 6.0⟩⟩, ⟨⟨0.0, 0.0⟩, ⟨0.0, 6.0⟩⟩,
   ⟨⟨24.0, 2.5⟩, ⟨26.0, 2.5⟩⟩, ⟨⟨26.0, 2.5⟩, ⟨26.0, 3.5⟩⟩, ⟨⟨26.0, 3.5⟩, ⟨24.0, 3.5⟩⟩,
   ⟨⟨24.0, 3.5⟩, ⟨24.0, 2.5⟩⟩]

/-- The route along the corridor. -/
def waypoints : List Waypoint :=
  [⟨0, ⟨12.0, 3.0⟩, 5.0, 0.0⟩, ⟨0, ⟨25.0, 4.8⟩, 2.4, 0.0⟩, ⟨0, ⟨38.0, 3.0⟩, 5.0, 1.0⟩,
   ⟨0, ⟨48.0, 3.0⟩, 5.0, 0.0⟩]

/-- Where the followers start. -/
def followerStarts : List Vec := [⟨1.0, 1.0⟩, ⟨1.8, 1.0⟩]

/-- The positions of a group of `size` anchored at `anchor`. -/
def groupAt (anchor : Vec) (size : Nat) : List Vec :=
  (List.range size).map fun i => anchor + ⟨i.toFloat * 0.6, 0.0⟩

/-- Groups for `left` more pedestrians, each of one to three, the last cut short. -/
def groups : Nat → Nat → Random.Source → List (List Vec)
  | 0, _, _ => []
  | fuel + 1, left, rng =>
    if left = 0 then []
    else
      let (k, rng) := rng.intBelow 3
      let size := min (1 + k) left
      let (u, rng) := rng.float64
      let (v, rng) := rng.float64
      let anchor : Vec := ⟨0.8 + u * 8.0, 0.8 + v * 4.4⟩
      groupAt anchor size :: groups fuel (left - size) rng

/-- Why the scene could not be built. -/
inductive CorridorError where
  | walls (f : RTree.Fault)
  | route (e : RouteError)
  | spawn (e : Simulation.SpawnError)

end Corridor

namespace Simulation

/-- Builds the corridor scene with `pedestrians` walkers placed from `seed`. -/
def corridor (s : Simulation) (pedestrians : Nat) (seed : Int) :
    Simulation × Except Corridor.CorridorError Unit :=
  match s.addBoundaries Corridor.walls with
  | .error f => (s, .error (.walls f))
  | .ok s =>
  match s.newRoute Corridor.waypoints with
  | (s, .error e) => (s, .error (.route e))
  | (s, .ok route) =>
    let gs := Corridor.groups pedestrians pedestrians (Random.Source.ofSeed seed)
    match s.spawnCrowd (some route) gs with
    | (s, .error e) => (s, .error (.spawn e))
    | (s, .ok c) =>
      match c.pedestrians with
      | p :: _ => ((s.spawnFollowers p.id Corridor.followerStarts).1, .ok ())
      | [] => (s, .ok ())

end Simulation

end CrowdSim
