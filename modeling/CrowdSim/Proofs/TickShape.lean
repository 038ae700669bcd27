import Mathlib
import CrowdSim.Sim.Simulation

/-!
# The shape of a tick

A tick rebuilds the index, then moves every member of every group of every crowd once. A member's
move sees the frozen index, its own state, and its group as the group stood when the tick began:
the size, the centroid of the start positions and the other members' start positions. Nothing a
member's move writes is read by any other member's move.

This module gives each loop of the tick its closed form, so that later statements about ticks need
not unfold a fold:

* `Group.move_eq`: a group's members after the move are the members' own checked moves, in
  order, and its counts are the numbers of those moves that succeeded and that failed;
* `Crowd.move_of_acceptsAll`: when no task is refused, a crowd's move is every group's move and
  its counts are the sums of the groups' counts;
* `Simulation.tick_eq`: when no task is refused, a tick moves every crowd against the context
  `Simulation.context`, and its counts are the sums over all crowds;
* `Simulation.tick_member`: then each member ends the tick as its own checked move.
-/

namespace CrowdSim

/-- Folding a list into a list of results and two counters, one for each outcome. -/
theorem foldl_tally {α β : Type} (f : α → β × Bool) (l : List α) (acc : List β × Nat × Nat) :
    l.foldl (fun acc a => (acc.1 ++ [(f a).1], if (f a).2 = true then acc.2.1 + 1 else acc.2.1,
      if (f a).2 = true then acc.2.2 else acc.2.2 + 1)) acc =
    (acc.1 ++ l.map (fun a => (f a).1), acc.2.1 + l.countP (fun a => (f a).2),
      acc.2.2 + l.countP (fun a => !(f a).2)) := by
  induction l generalizing acc with
  | nil => simp
  | cons a l ih =>
    rw [List.foldl_cons, ih]
    cases h : (f a).2 <;> simp [h] <;> omega

/-! ## Groups -/

namespace Group

/-- The view member `i` has of its group during a tick: the group's size, and the centroid and
the other members' positions as they stood when the tick began. -/
def viewAt (g : Group) (i : Nat) : GroupView :=
  ⟨g.members.length, Vec.centroid (g.members.map (·.position)),
    mates (g.members.map (·.position)) i⟩

/-- The checked move of a member `pi.1`, the `pi.2`-th of the group. -/
def memberMove (g : Group) (tc : TickContext) (pi : Pedestrian × Nat) : Pedestrian × Bool :=
  pi.1.moveChecked tc (g.viewAt pi.2)

/-- **A group's move in closed form.** Each member is replaced by its own checked move, the
centroid is that of the start positions, and the counts are those of the successful and of the
failed moves. -/
theorem move_eq (g : Group) (tc : TickContext) :
    g.move tc = (⟨g.id, g.members.zipIdx.map (fun pi => (g.memberMove tc pi).1),
      Vec.centroid (g.members.map (·.position))⟩,
      g.members.zipIdx.countP (fun pi => (g.memberMove tc pi).2),
      g.members.zipIdx.countP (fun pi => !(g.memberMove tc pi).2)) := by
  unfold Group.move
  simp only [foldl_tally]
  simp [memberMove, viewAt]

/-- The `i`-th member after a group's move is the `i`-th member's own checked move. -/
theorem move_members_getElem? (g : Group) (tc : TickContext) (i : Nat) :
    (g.move tc).1.members[i]? = g.members[i]?.map fun p => (p.moveChecked tc (g.viewAt i)).1 := by
  rw [move_eq]
  simp only [List.getElem?_map, List.getElem?_zipIdx, Option.map_map, Function.comp_def,
    memberMove, Nat.zero_add]

/-- A group's move keeps its number of members. -/
@[simp] theorem move_members_length (g : Group) (tc : TickContext) :
    (g.move tc).1.members.length = g.members.length := by
  simp [move_eq]

end Group

/-! ## Crowds -/

/-- The pool, if there is one, accepts every task: no group of a tick is skipped. -/
def PoolState.acceptsAll (pool : Option PoolState) : Prop :=
  ∀ ps, pool = some ps → ps.closed = false

namespace Crowd

/-- The crowd with every group moved against the context `tc`. -/
def moved (c : Crowd) (tc : TickContext) : Crowd :=
  { c with groups := c.groups.map fun g => (g.move tc).1 }

/-- The members a crowd's groups move successfully in one tick. -/
def movedCount (c : Crowd) (tc : TickContext) : Nat := (c.groups.map fun g => (g.move tc).2.1).sum

/-- The members of a crowd whose move fails in one tick. -/
def faultCount (c : Crowd) (tc : TickContext) : Nat := (c.groups.map fun g => (g.move tc).2.2).sum

/-- A pool that accepts every task still does after any number of them. -/
theorem acceptsAll_map (pool : Option PoolState) (n : Nat) (h : PoolState.acceptsAll pool) :
    PoolState.acceptsAll (pool.map fun ps => { ps with total := ps.total + n }) := by
  intro ps hps
  obtain ⟨ps₀, h₀, rfl⟩ := Option.map_eq_some_iff.mp hps
  exact h ps₀ h₀

/-- The group loop of a crowd's move when the pool accepts every task: each group is moved, the
pool counts one task per group, and the counts add up. -/
theorem foldl_step_of_acceptsAll (tc : TickContext) (l : List Group) (done : List Group)
    (pool : Option PoolState) (st : MoveStats) (h : PoolState.acceptsAll pool) :
    l.foldl (move.step tc) (done, pool, st) =
      (done ++ l.map (fun g => (g.move tc).1),
        pool.map (fun ps => { ps with total := ps.total + l.length }),
        ⟨st.moved + (l.map fun g => (g.move tc).2.1).sum, st.skipped,
          st.faults + (l.map fun g => (g.move tc).2.2).sum⟩) := by
  induction l generalizing done pool st with
  | nil => cases pool <;> simp
  | cons g l ih =>
    rw [List.foldl_cons]
    cases pool with
    | none =>
      simp only [move.step]
      rw [ih _ _ _ (by simp [PoolState.acceptsAll])]
      simp [Nat.add_assoc]
    | some ps =>
      have hopen : ps.closed = false := h ps rfl
      simp only [move.step, hopen, Bool.false_eq_true, if_false]
      rw [ih _ _ _ (fun ps' hps' => by cases hps'; rfl)]
      simp [hopen, Nat.add_assoc, Nat.add_comm 1]

/-- **A crowd's move in closed form**, when no task is refused. -/
theorem move_of_acceptsAll (c : Crowd) (tc : TickContext) (pool : Option PoolState)
    (h : PoolState.acceptsAll pool) :
    c.move tc pool = (c.moved tc,
      pool.map (fun ps => { ps with total := ps.total + c.groups.length }),
      ⟨c.movedCount tc, 0, c.faultCount tc⟩) := by
  unfold Crowd.move
  rw [foldl_step_of_acceptsAll tc c.groups [] pool ⟨0, 0, 0⟩ h]
  simp [moved, movedCount, faultCount]

end Crowd

/-! ## Ticks -/

namespace Simulation

/-- What every move of a tick shares: the index rebuilt from every pedestrian, the engine, the
start time and the step. -/
def context (s : Simulation) (now dt : Float) : TickContext :=
  ⟨s.index.rebuild s.agents, s.engine.model, s.engine.scheme, now, dt⟩

/-- The tasks a pool runs for the crowds: one per group. -/
def taskCount (crowds : List Crowd) : Nat := (crowds.map fun c => c.groups.length).sum

/-- The crowd loop of a tick when the pool accepts every task. -/
theorem foldl_step_of_acceptsAll (tc : TickContext) (l : List Crowd) (done : List Crowd)
    (pool : Option PoolState) (st : MoveStats) (h : PoolState.acceptsAll pool) :
    l.foldl (tick.step tc) (done, pool, st) =
      (done ++ l.map (·.moved tc),
        pool.map (fun ps => { ps with total := ps.total + taskCount l }),
        ⟨st.moved + (l.map (·.movedCount tc)).sum, st.skipped,
          st.faults + (l.map (·.faultCount tc)).sum⟩) := by
  induction l generalizing done pool st with
  | nil => cases pool <;> simp [taskCount]
  | cons c l ih =>
    rw [List.foldl_cons]
    simp only [tick.step, Crowd.move_of_acceptsAll c tc pool h]
    rw [ih _ _ _ (Crowd.acceptsAll_map pool _ h)]
    cases pool <;> simp [taskCount, Nat.add_assoc]

/-- **A tick in closed form**, when no task is refused: every crowd is moved against the tick's
context, the pool counts one task per group, and the counts are the sums over the crowds. -/
theorem tick_eq (s : Simulation) (now dt : Float) (h : PoolState.acceptsAll s.pool) :
    s.tick now dt =
      let tc := s.context now dt
      let stats : TickStats := ⟨s.ticks + 1, if dt > 0.0 then now + dt else now, s.agents.length,
        (s.crowds.map (·.movedCount tc)).sum, 0, (s.crowds.map (·.faultCount tc)).sum,
        s.engine.epoch⟩
      ({ s with
          index := tc.env, crowds := s.crowds.map (·.moved tc),
          pool := s.pool.map (fun ps => { ps with total := ps.total + taskCount s.crowds }),
          now := stats.time, ticks := stats.tick, last := stats }, stats) := by
  unfold Simulation.tick
  simp only
  rw [foldl_step_of_acceptsAll _ s.crowds [] s.pool ⟨0, 0, 0⟩ h]
  simp [context]

/-- Member `i` of group `k` of crowd `j`, if there is one. -/
def member (s : Simulation) (j k i : Nat) : Option Pedestrian :=
  (s.crowds[j]?.bind (·.groups[k]?)).bind (·.members[i]?)

/-- When no task is refused, each member ends the tick as its own checked move from its own
state, against the group it started the tick in. -/
theorem tick_member (s : Simulation) (now dt : Float) (h : PoolState.acceptsAll s.pool)
    {j k : Nat} {c : Crowd} {g : Group} (hc : s.crowds[j]? = some c) (hg : c.groups[k]? = some g)
    (i : Nat) :
    (s.tick now dt).1.member j k i =
      g.members[i]?.map fun p => (p.moveChecked (s.context now dt) (g.viewAt i)).1 := by
  rw [tick_eq s now dt h]
  simp [member, hc, Crowd.moved, hg, Group.move_members_getElem?]

end Simulation

end CrowdSim
