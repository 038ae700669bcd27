import CrowdSim.Plane.Segment
import CrowdSim.Space.RTree

/-!
# The spatial index

The index answers "who and what is near this box" for one tick. It holds a snapshot of the
pedestrians, replaced as a whole at the start of each tick, and the boundary walls, which only
ever grow. Both live in R-trees (`RTree`): the pedestrians are bulk-loaded at each rebuild, the
walls inserted one at a time, and queries list what they find in the trees' search order.

Both are searched as rectangles grown by `tolerance` on every side (`Rect.ofBox`), and a search
rectangle meets an entry only when they overlap with positive width on both axes: rectangles
that merely touch do not meet, while any NaN coordinate makes the test pass.

Walls are stored with the end of smaller `x` (then smaller `y`) first, each once however often
and in whichever direction it is added; a wall with a NaN or infinite coordinate is not stored.
Adding a wall fails when the wall tree cannot place it (`RTree.Fault`), which happens once the
boxes are so large that their areas overflow.
-/

namespace CrowdSim

/-- A pedestrian as the index sees it during one tick. -/
structure Agent (K : Type := Float) where
  id : Int
  groupId : Int
  position : Vec K
  velocity : Vec K
  deriving Inhabited

/-- A boundary wall: its segment, stored in canonical direction, and the box of its segment grown
by the index's padding. -/
structure Wall (K : Type := Float) where
  segment : Segment K
  box : Box K
  deriving Inhabited

section

variable {K : Type} [Scalar K]

/-- The segment with the end of smaller `x`, then smaller `y`, first. -/
def Segment.canonical (s : Segment K) : Segment K :=
  if s.b.x < s.a.x || (s.b.x == s.a.x && s.b.y < s.a.y) then ⟨s.b, s.a⟩ else s

/-- Two segments are the same wall: all four coordinates equal as doubles. -/
def Segment.sameAs (s t : Segment K) : Bool := s.a.equal t.a && s.b.equal t.b

end

/-- The pedestrians of one tick and the walls added so far. -/
structure Index (K : Type := Float) where
  /-- How far each wall's box is grown; never negative. -/
  pad : K
  /-- The snapshot, in the order it was given, NaN positions included. -/
  agents : List (Agent K)
  /-- The located agents, each under the rectangle of its position. -/
  agentTree : RTree (Agent K) K
  /-- The walls in the order they were first added. -/
  walls : List (Wall K)
  /-- The walls, each under the rectangle of its grown box. -/
  wallTree : RTree (Wall K) K
  deriving Inhabited

namespace Index

variable {K : Type} [Scalar K]

/-- An empty index; a negative padding becomes zero. -/
def empty (pad : K) : Index K :=
  ⟨if pad < 0.0 then 0.0 else pad, [], RTree.empty, [], RTree.empty⟩

/-- The agents that take part in searches: those with a finite position. -/
def located (idx : Index K) : List (Agent K) := idx.agents.filter fun a => !a.position.isNaN

/-- Replaces the pedestrian snapshot and loads the located agents into a fresh tree. -/
def rebuild (idx : Index K) (agents : List (Agent K)) : Index K :=
  let idx := { idx with agents := agents }
  { idx with
    agentTree := RTree.load (idx.located.map fun a => (Rect.ofBox (Box.point a.position), a)) }

/-- Adds one wall unless it is already present or not finite. -/
def addWall (idx : Index K) (s : Segment K) : Except RTree.Fault (Index K) :=
  let key := s.canonical
  if idx.walls.any (fun w => w.segment.sameAs key) then .ok idx
  else if key.a.isNaN || key.b.isNaN then .ok idx
  else
    let w : Wall K := ⟨key, key.bound.pad idx.pad⟩
    match idx.wallTree.insert (Rect.ofBox w.box, w) with
    | .error f => .error f
    | .ok t => .ok { idx with walls := idx.walls ++ [w], wallTree := t }

/-- Adds walls one after another, stopping at the first that cannot be placed. -/
def addBoundaries (idx : Index K) : List (Segment K) → Except RTree.Fault (Index K)
  | [] => .ok idx
  | s :: rest =>
    match idx.addWall s with
    | .error f => .error f
    | .ok idx => addBoundaries idx rest

/-- The located agents whose point rectangle meets the box, in search order. -/
def queryAgents (idx : Index K) (box : Box K) : List (Agent K) := idx.agentTree.search (Rect.ofBox box)

/-- The walls whose grown box meets the box, in search order. -/
def queryWalls (idx : Index K) (box : Box K) : List (Wall K) := idx.wallTree.search (Rect.ofBox box)

/-- The agent of an id in the snapshot: the last located one with that id. -/
def agent? (idx : Index K) (id : Int) : Option (Agent K) :=
  idx.located.reverse.find? fun a => a.id == id

/-- The number of distinct ids among the located agents. -/
def countAgents (idx : Index K) : Nat :=
  (idx.located.map (·.id)).eraseDups.length

/-- The number of walls. -/
def countWalls (idx : Index K) : Nat := idx.walls.length

/-- The straight line from `a` to `b` meets no wall; never for a non-finite end. -/
def visible (idx : Index K) (a b : Vec K) : Bool :=
  if a.isNaN || b.isNaN then false
  else
    let sight : Segment K := ⟨a, b⟩
    !(idx.queryWalls sight.bound).any fun w => sight.intersects w.segment

end Index

end CrowdSim
