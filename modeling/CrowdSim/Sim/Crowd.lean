import CrowdSim.Sim.Pedestrian

/-!
# Groups and crowds

A group is a cohort moved together, in a fixed member order; its members attract each other
through the group force, each seeing the others where they stood at the start of the tick. A crowd
is an ordered list of groups sharing an optional route.

Groups of a tick are independent: each reads only the frozen index and its own members, so the
groups of a crowd may be moved in any order, here in list order. A worker pool runs one task per
group; once the pool is closed every submission is refused and the group stays where it is.

The pool of this sequential move has no queue: an open pool takes every task. The program's pool
also refuses a task when its queue is full, which depends on how far its workers have got, so
the sequential move is the program's (`Crowd.moveOn_refines`) only on a closed pool or when the
queue can hold all of a crowd's groups; for a crowd of more groups than an open pool's queue
holds, it says nothing about which groups the program skips.
-/

namespace CrowdSim

/-- A cohort of pedestrians moved together. -/
structure Group where
  id : Int
  members : List Pedestrian
  /-- The mean member position at the start of the last tick. -/
  centroid : Vec
  deriving Inhabited

namespace Group

/-- A group of the given members, each told that it belongs to the group. -/
def make (id : Int) (members : List Pedestrian) : Group :=
  let members := members.map fun p => { p with group := some id }
  ⟨id, members, Vec.centroid (members.map (·.position))⟩

/-- The positions other than the `i`-th. -/
def mates (start : List Vec) (i : Nat) : List Vec := start.eraseIdx i

/-- Moves every member in order; the counts of members moved and of faults. -/
def move (g : Group) (tc : TickContext) : Group × Nat × Nat :=
  let start := g.members.map (·.position)
  let centroid := Vec.centroid start
  let step (acc : List Pedestrian × Nat × Nat) (pi : Pedestrian × Nat) :
      List Pedestrian × Nat × Nat :=
    let (done, moved, faults) := acc
    let view : GroupView := ⟨g.members.length, centroid, mates start pi.2⟩
    let (q, ok) := pi.1.moveChecked tc view
    (done ++ [q], if ok then moved + 1 else moved, if ok then faults else faults + 1)
  let (members, moved, faults) := g.members.zipIdx.foldl step ([], 0, 0)
  (⟨g.id, members, centroid⟩, moved, faults)

end Group

/-- The counters of the worker pool. -/
structure PoolState where
  /-- The pool refuses every task. -/
  closed : Bool
  /-- The number of tasks run. -/
  total : Nat
  /-- The number of tasks refused. -/
  rejected : Nat
  deriving Inhabited

/-- The counts of one crowd's move. -/
structure MoveStats where
  moved : Nat
  skipped : Nat
  faults : Nat

/-- An ordered set of groups sharing one optional route. -/
structure Crowd where
  id : Int
  groups : List Group
  route : Option Route
  deriving Inhabited

namespace Crowd

/-- Every member of every group, in movement order. -/
def pedestrians (c : Crowd) : List Pedestrian := c.groups.flatMap (·.members)

/-- The number of pedestrians. -/
def len (c : Crowd) : Nat := c.pedestrians.length

/-- Moves each group one tick: inline without a pool, else as a pool task, skipped when the pool
refuses it. -/
def move (c : Crowd) (tc : TickContext) (pool : Option PoolState) :
    Crowd × Option PoolState × MoveStats :=
  let (groups, pool, st) := c.groups.foldl (step tc) ([], pool, ⟨0, 0, 0⟩)
  ({ c with groups := groups }, pool, st)
where
  /-- Runs or skips one more group, after the groups done so far, with the pool and the counts. -/
  step (tc : TickContext) (acc : List Group × Option PoolState × MoveStats) (g : Group) :
      List Group × Option PoolState × MoveStats :=
    let (done, pool, st) := acc
    match pool with
    | some ps =>
      if ps.closed then
        (done ++ [g], some { ps with rejected := ps.rejected + 1 }, { st with skipped := st.skipped + 1 })
      else
        let (g, m, f) := g.move tc
        (done ++ [g], some { ps with total := ps.total + 1 },
          { st with moved := st.moved + m, faults := st.faults + f })
    | none =>
      let (g, m, f) := g.move tc
      (done ++ [g], none, { st with moved := st.moved + m, faults := st.faults + f })

end Crowd

end CrowdSim
