import Mathlib
import CrowdSim.Proofs.TickShape

/-!
# Every interleaving of a tick's group tasks gives the inline tick

With a worker pool, a crowd's move submits one task per group and waits for all of them; the
workers run the tasks concurrently. Here a task is a small machine over the shared groups of its
crowd (`Group.taskStep`): its first action reads its group's positions and stores the centroid,
action `i + 1` moves member `i` as it stands in the group, and a last action adds the task's counts
to the crowd's counters. A schedule is any list of task numbers: the pool's workers take the
actions in that order (`CrowdRun.run`), so every interleaving of the tasks is one schedule.

Each action reads and writes its own group only, and the counters only grow by sums. So after any
schedule, a task has taken one action for each time the schedule names it
(`CrowdRun.run_tasks_getElem?`), whatever the others did, and the counters hold what the finished
tasks handed over (`CrowdRun.run_counts`). A schedule that gives every task all its turns ends
with every group moved as `Group.move` moves it (`CrowdRun.run_of_covers`).

The main statement, `tick_same_under_every_interleaving`: a tick whose crowds run under any such
schedules (`Simulation.tickInterleaved`) produces the state of the inline tick, as does the pooled
tick of the rewrite, and every pedestrian's new state is its own checked move from its own state,
its group's start positions and the tick's index.
-/

namespace CrowdSim

/-- The sum of a list after one entry is replaced, with the old entry added back. -/
theorem sum_map_set {α : Type} (f : α → Nat) (l : List α) (k : Nat) (y : α)
    (hk : k < l.length) : ((l.set k y).map f).sum + f l[k] = (l.map f).sum + f y := by
  induction l generalizing k with
  | nil => simp at hk
  | cons a l ih =>
    cases k with
    | zero => simp; omega
    | succ k =>
      have hk' : k < l.length := by simpa using hk
      have := ih k hk'
      simp only [List.set_cons_succ, List.map_cons, List.sum_cons, List.getElem_cons_succ]
      omega

/-! ## Group tasks -/

/-- What a group task keeps in its own variables: how many actions it has taken, the start
positions it read, and its counts of members moved and of faults. -/
structure TaskState where
  pc : Nat
  start : List Vec
  moved : Nat
  faults : Nat

/-- A task before its first action. -/
def TaskState.init : TaskState := ⟨0, [], 0, 0⟩

namespace Group

/-- One action of the task that moves `g`. The first reads the start positions and stores their
centroid in the group; action `i + 1` moves member `i` as it stands in the group, seeing the
other members at the start positions; the action after the last member hands the counts over;
later actions do nothing. -/
def taskStep (tc : TickContext) (x : Group × TaskState) : Group × TaskState :=
  let g := x.1
  let t := x.2
  if t.pc = 0 then
    let start := g.members.map (·.position)
    ({ g with centroid := Vec.centroid start }, { t with pc := 1, start := start })
  else if t.pc ≤ g.members.length then
    let i := t.pc - 1
    let r := (g.members.getD i default).moveChecked tc
      ⟨g.members.length, g.centroid, mates t.start i⟩
    ({ g with members := g.members.set i r.1 },
      { t with pc := t.pc + 1, moved := if r.2 then t.moved + 1 else t.moved,
               faults := if r.2 then t.faults else t.faults + 1 })
  else if t.pc = g.members.length + 1 then (g, { t with pc := t.pc + 1 })
  else (g, t)

/-- What a task adds to the crowd's counters at its next action: its counts when it hands them
over, nothing otherwise. -/
def taskReport (x : Group × TaskState) : Nat × Nat :=
  if x.2.pc = x.1.members.length + 1 then (x.2.moved, x.2.faults) else (0, 0)

/-- What a task has added to the crowd's counters so far. -/
def taskHanded (x : Group × TaskState) : Nat × Nat :=
  if x.1.members.length + 1 < x.2.pc then (x.2.moved, x.2.faults) else (0, 0)

/-- The first action reads the start positions and stores their centroid. -/
theorem taskStep_start (tc : TickContext) (g : Group) (t : TaskState) (h : t.pc = 0) :
    taskStep tc (g, t) = ({ g with centroid := Vec.centroid (g.members.map (·.position)) },
      { t with pc := 1, start := g.members.map (·.position) }) := by
  simp [taskStep, h]

/-- Action `i + 1` moves member `i` against the stored centroid and start positions. -/
theorem taskStep_member (tc : TickContext) (g : Group) (t : TaskState) (h0 : t.pc ≠ 0)
    (h : t.pc ≤ g.members.length) :
    taskStep tc (g, t) =
      let r := (g.members.getD (t.pc - 1) default).moveChecked tc
        ⟨g.members.length, g.centroid, mates t.start (t.pc - 1)⟩
      ({ g with members := g.members.set (t.pc - 1) r.1 },
        { t with pc := t.pc + 1, moved := if r.2 then t.moved + 1 else t.moved,
                 faults := if r.2 then t.faults else t.faults + 1 }) := by
  simp [taskStep, h0, h]

/-- The action after the last member hands the counts over. -/
theorem taskStep_handOver (tc : TickContext) (g : Group) (t : TaskState)
    (h : t.pc = g.members.length + 1) : taskStep tc (g, t) = (g, { t with pc := t.pc + 1 }) := by
  simp [taskStep, h]

/-- A task that has handed its counts over takes no further action. -/
theorem taskStep_of_done (tc : TickContext) (x : Group × TaskState)
    (h : x.1.members.length + 1 < x.2.pc) : taskStep tc x = x := by
  have h0 : x.2.pc ≠ 0 := by omega
  have h1 : ¬ x.2.pc ≤ x.1.members.length := by omega
  have h2 : x.2.pc ≠ x.1.members.length + 1 := by omega
  simp [taskStep, h0, h1, h2]

@[simp] theorem taskStep_members_length (tc : TickContext) (x : Group × TaskState) :
    (taskStep tc x).1.members.length = x.1.members.length := by
  obtain ⟨g, t⟩ := x
  by_cases h0 : t.pc = 0
  · simp [taskStep_start tc g t h0]
  by_cases h1 : t.pc ≤ g.members.length
  · simp [taskStep_member tc g t h0 h1]
  by_cases h2 : t.pc = g.members.length + 1
  · simp [taskStep_handOver tc g t h2]
  · rw [taskStep_of_done tc (g, t) (by simp only; omega)]

/-- An action hands over what it reports: the counts handed over grow by the report. -/
theorem taskHanded_taskStep (tc : TickContext) (x : Group × TaskState) :
    (taskHanded (taskStep tc x)).1 = (taskReport x).1 + (taskHanded x).1 ∧
      (taskHanded (taskStep tc x)).2 = (taskReport x).2 + (taskHanded x).2 := by
  obtain ⟨g, t⟩ := x
  have hlen := taskStep_members_length tc (g, t)
  simp only [taskHanded, taskReport] at hlen ⊢
  by_cases h0 : t.pc = 0
  · simp [taskStep_start tc g t h0, h0]
  by_cases h1 : t.pc ≤ g.members.length
  · -- A member action: not yet handed over, before or after.
    have h2 : ¬ g.members.length + 1 < t.pc + 1 := by omega
    simp [taskStep_member tc g t h0 h1, h2, show t.pc ≠ g.members.length + 1 by omega,
      show ¬ g.members.length + 1 < t.pc by omega]
  by_cases h2 : t.pc = g.members.length + 1
  · simp [taskStep_handOver tc g t h2, h2]
  · rw [taskStep_of_done tc (g, t) (by simp only; omega)]
    simp [h2]

/-- The members moved by the first `j` actions after the start, from the start of the tick. -/
def movedPrefix (g : Group) (tc : TickContext) (j : Nat) : List Pedestrian :=
  (g.members.zipIdx.take j).map fun pi => (g.memberMove tc pi).1

/-- The task after its start and `j` member actions: the first `j` members moved, the others as
they were, and the counts of the first `j` moves. -/
theorem taskStep_iterate_members (g : Group) (tc : TickContext) (j : Nat)
    (hj : j ≤ g.members.length) :
    (taskStep tc)^[j + 1] (g, TaskState.init) =
      ({ g with centroid := Vec.centroid (g.members.map (·.position)),
                members := movedPrefix g tc j ++ g.members.drop j },
        ⟨j + 1, g.members.map (·.position),
          (g.members.zipIdx.take j).countP (fun pi => (g.memberMove tc pi).2),
          (g.members.zipIdx.take j).countP (fun pi => !(g.memberMove tc pi).2)⟩) := by
  induction j with
  | zero => simp [taskStep, TaskState.init, movedPrefix]
  | succ j ih =>
    rw [Function.iterate_succ_apply', ih (by omega)]
    -- Action `j + 2` moves member `j`, which no earlier action has touched.
    have hj' : j < g.members.length := by omega
    have hlen : (movedPrefix g tc j).length = j := by
      simp [movedPrefix]; omega
    have hread : (movedPrefix g tc j ++ g.members.drop j).getD j default = g.members[j] := by
      rw [List.getD_eq_getElem?_getD, List.getElem?_append_right (by omega), hlen, Nat.sub_self,
        List.getElem?_drop, Nat.add_zero, List.getElem?_eq_getElem hj', Option.getD_some]
    have htake : g.members.zipIdx.take (j + 1) =
        g.members.zipIdx.take j ++ [(g.members[j], j)] := by
      rw [List.take_add_one, List.getElem?_zipIdx, List.getElem?_eq_getElem hj']
      simp
    have hset : (movedPrefix g tc j ++ g.members.drop j).set j
        (g.memberMove tc (g.members[j], j)).1 =
          movedPrefix g tc (j + 1) ++ g.members.drop (j + 1) := by
      rw [List.set_append_right _ _ (by omega), hlen, Nat.sub_self, List.drop_eq_getElem_cons hj',
        List.set_cons_zero, movedPrefix, movedPrefix, htake]
      simp
    simp only [taskStep, show j + 1 ≠ 0 by omega, if_false, List.length_append, hlen,
      List.length_drop, show j + 1 ≤ j + (g.members.length - j) by omega, if_true,
      Nat.add_sub_cancel, hread]
    have hview : (⟨j + (g.members.length - j), Vec.centroid (g.members.map (·.position)),
        mates (g.members.map (·.position)) j⟩ : GroupView) = g.viewAt j := by
      simp only [viewAt]; congr 1; omega
    rw [hview, htake, ← hset]
    cases h : (g.memberMove tc (g.members[j], j)).2 <;>
      simp_all [memberMove, List.countP_append]

/-- **A task run to the end.** Once a task has taken all its actions, its group is the group as
`Group.move` leaves it, and its counts are those of `Group.move`. -/
theorem taskStep_iterate_done (g : Group) (tc : TickContext) (m : Nat)
    (hm : g.members.length + 2 ≤ m) :
    (taskStep tc)^[m] (g, TaskState.init) =
      ((g.move tc).1, ⟨g.members.length + 2, g.members.map (·.position),
        (g.move tc).2.1, (g.move tc).2.2⟩) := by
  obtain ⟨k, rfl⟩ := Nat.exists_eq_add_of_le hm
  have hfull := taskStep_iterate_members g tc g.members.length le_rfl
  have hprefix : movedPrefix g tc g.members.length =
      g.members.zipIdx.map fun pi => (g.memberMove tc pi).1 := by
    simp [movedPrefix]
  have hzip : g.members.zipIdx.take g.members.length = g.members.zipIdx := by simp
  -- The hand-over action, then nothing.
  have hdone : (taskStep tc)^[g.members.length + 2] (g, TaskState.init) =
      ((g.move tc).1, ⟨g.members.length + 2, g.members.map (·.position),
        (g.move tc).2.1, (g.move tc).2.2⟩) := by
    rw [Function.iterate_succ_apply', hfull, hprefix, hzip]
    simp [taskStep, move_eq]
  rw [Nat.add_comm, Function.iterate_add_apply, hdone]
  clear hm
  induction k with
  | zero => rfl
  | succ k ih =>
    rw [Function.iterate_succ_apply', ih, taskStep_of_done]
    simp

end Group

/-! ## A crowd's tasks under a schedule -/

/-- The state shared by a crowd's tasks while the pool runs them: each group with its task, and
the crowd's two counters. -/
structure CrowdRun where
  tasks : List (Group × TaskState)
  moved : Nat
  faults : Nat

namespace CrowdRun

/-- Every group with its task submitted and not started, and the counters at zero. -/
def start (c : Crowd) : CrowdRun := ⟨c.groups.map fun g => (g, TaskState.init), 0, 0⟩

/-- Task `k` takes its next action; a number naming no task changes nothing. -/
def advance (tc : TickContext) (r : CrowdRun) (k : Nat) : CrowdRun :=
  match r.tasks[k]? with
  | some x => ⟨r.tasks.set k (Group.taskStep tc x), r.moved + (Group.taskReport x).1,
      r.faults + (Group.taskReport x).2⟩
  | none => r

/-- The actions taken in the order of a schedule, each entry naming the task that acts. -/
def run (tc : TickContext) (r : CrowdRun) (σ : List Nat) : CrowdRun := σ.foldl (advance tc) r

/-- What the tasks have handed over so far, summed. -/
def handed (r : CrowdRun) : Nat × Nat :=
  ((r.tasks.map fun x => (Group.taskHanded x).1).sum,
    (r.tasks.map fun x => (Group.taskHanded x).2).sum)

/-- An action touches its own task only. -/
theorem advance_tasks_getElem? (tc : TickContext) (r : CrowdRun) (j k : Nat) :
    (r.advance tc j).tasks[k]? =
      if j = k then r.tasks[k]?.map (Group.taskStep tc) else r.tasks[k]? := by
  unfold advance
  cases hj : r.tasks[j]? with
  | none =>
    split_ifs with hjk
    · subst hjk; simp [hj]
    · rfl
  | some x =>
    have hlt : j < r.tasks.length := (List.getElem?_eq_some_iff.mp hj).1
    simp only [List.getElem?_set]
    split_ifs with hjk
    · subst hjk; simp [hj]
    · rfl

/-- **Each task sees only its own turns.** After a schedule, task `k` has taken one action for
each time the schedule names it, whatever the other tasks did in between. -/
theorem run_tasks_getElem? (tc : TickContext) (σ : List Nat) (r : CrowdRun) (k : Nat) :
    (r.run tc σ).tasks[k]? = r.tasks[k]?.map (Group.taskStep tc)^[σ.count k] := by
  induction σ generalizing r with
  | nil => simp [run]
  | cons j σ ih =>
    simp only [run, List.foldl_cons] at ih ⊢
    rw [ih, advance_tasks_getElem?, List.count_cons]
    by_cases hjk : j = k
    · subst hjk
      simp [Option.map_map, Function.iterate_succ]
    · simp [hjk]

/-- An action adds to the counters exactly what its task hands over. -/
theorem advance_counts (tc : TickContext) (r : CrowdRun) (k : Nat) :
    (r.advance tc k).moved + r.handed.1 = r.moved + (r.advance tc k).handed.1 ∧
      (r.advance tc k).faults + r.handed.2 = r.faults + (r.advance tc k).handed.2 := by
  unfold advance
  cases hk : r.tasks[k]? with
  | none => simp
  | some x =>
    obtain ⟨hlt, hx⟩ := List.getElem?_eq_some_iff.mp hk
    have h1 := sum_map_set (fun x => (Group.taskHanded x).1) r.tasks k (Group.taskStep tc x) hlt
    have h2 := sum_map_set (fun x => (Group.taskHanded x).2) r.tasks k (Group.taskStep tc x) hlt
    obtain ⟨e1, e2⟩ := Group.taskHanded_taskStep tc x
    simp only [handed, hx] at h1 h2 ⊢
    constructor <;> omega

/-- **The counters after a schedule** hold what the tasks handed over, added to what they held. -/
theorem run_counts (tc : TickContext) (σ : List Nat) (r : CrowdRun) :
    (r.run tc σ).moved + r.handed.1 = r.moved + (r.run tc σ).handed.1 ∧
      (r.run tc σ).faults + r.handed.2 = r.faults + (r.run tc σ).handed.2 := by
  induction σ generalizing r with
  | nil => simp [run]
  | cons j σ ih =>
    simp only [run, List.foldl_cons] at ih ⊢
    obtain ⟨a1, a2⟩ := advance_counts tc r j
    obtain ⟨b1, b2⟩ := ih (r.advance tc j)
    constructor <;> omega

/-- No task of a fresh run has handed anything over. -/
theorem start_handed (c : Crowd) : (start c).handed = (0, 0) := by
  simp [start, handed, Group.taskHanded, TaskState.init, Function.comp_def]

end CrowdRun

/-- The schedule gives every task of the crowd at least as many turns as it has actions: one to
start, one per member and one to hand its counts over. Turns beyond those change nothing. -/
def Crowd.Covers (c : Crowd) (σ : List Nat) : Prop :=
  ∀ k g, c.groups[k]? = some g → g.members.length + 2 ≤ σ.count k

namespace CrowdRun

/-- **A schedule that gives every task all its turns** leaves every group moved as
`Group.move` moves it, and counters holding the crowd's counts. -/
theorem run_of_covers (c : Crowd) (tc : TickContext) (σ : List Nat) (hσ : c.Covers σ) :
    ((start c).run tc σ).tasks.map (·.1) = (c.moved tc).groups ∧
      ((start c).run tc σ).moved = c.movedCount tc ∧
      ((start c).run tc σ).faults = c.faultCount tc := by
  -- Every task ends in the state `Group.taskStep_iterate_done` describes.
  have htasks : ((start c).run tc σ).tasks = c.groups.map fun g =>
      ((g.move tc).1, (⟨g.members.length + 2, g.members.map (·.position),
        (g.move tc).2.1, (g.move tc).2.2⟩ : TaskState)) := by
    apply List.ext_getElem?
    intro k
    rw [run_tasks_getElem?]
    simp only [start, List.getElem?_map]
    cases hg : c.groups[k]? with
    | none => rfl
    | some g => simp [Group.taskStep_iterate_done g tc _ (hσ k g hg)]
  -- The counters hold what the finished tasks handed over, from zero.
  obtain ⟨h1, h2⟩ := run_counts tc σ (start c)
  rw [start_handed] at h1 h2
  change _ + 0 = 0 + _ at h1 h2
  simp only [handed, htasks] at h1 h2
  refine ⟨by simp [htasks, Crowd.moved], ?_, ?_⟩
  · simp only [Crowd.movedCount]
    simpa [Group.taskHanded, Function.comp_def] using h1
  · simp only [Crowd.faultCount]
    simpa [Group.taskHanded, Function.comp_def] using h2

end CrowdRun

/-! ## Ticks under interleavings -/

namespace Simulation

/-- A tick in which the pool runs the tasks of the `j`-th crowd in the order `σ j`. As in
`Crowd.move`, a crowd's tasks all end before the next crowd's tasks start; the pool's own
counters are left aside. -/
def tickInterleaved (s : Simulation) (now dt : Float) (σ : Nat → List Nat) :
    Simulation × TickStats :=
  let tc := s.context now dt
  let runs := s.crowds.zipIdx.map fun (c, j) => (c, (CrowdRun.start c).run tc (σ j))
  let stats : TickStats := ⟨s.ticks + 1, if dt > 0.0 then now + dt else now, s.agents.length,
    (runs.map (·.2.moved)).sum, 0, (runs.map (·.2.faults)).sum, s.engine.epoch⟩
  ({ s with
      index := tc.env, crowds := runs.map fun (c, r) => { c with groups := r.tasks.map (·.1) },
      now := stats.time, ticks := stats.tick, last := stats }, stats)

/-- The crowds of an interleaved tick, and its counts, when every schedule covers its crowd. -/
theorem tickInterleaved_runs (s : Simulation) (now dt : Float) (σ : Nat → List Nat)
    (hσ : ∀ (j : Nat) (c : Crowd), s.crowds[j]? = some c → c.Covers (σ j)) :
    (s.crowds.zipIdx.map fun (c, j) =>
        (c, (CrowdRun.start c).run (s.context now dt) (σ j))).map
      (fun (cr : Crowd × CrowdRun) => ({ cr.1 with groups := cr.2.tasks.map (·.1) },
        cr.2.moved, cr.2.faults)) =
      s.crowds.map fun c => (c.moved (s.context now dt), c.movedCount (s.context now dt),
        c.faultCount (s.context now dt)) := by
  apply List.ext_getElem?
  intro j
  simp only [List.getElem?_map, List.getElem?_zipIdx, Option.map_map, Function.comp_def,
    Nat.zero_add]
  cases hc : s.crowds[j]? with
  | none => rfl
  | some c =>
    obtain ⟨e1, e2, e3⟩ := CrowdRun.run_of_covers c (s.context now dt) (σ j) (hσ j c hc)
    simp [e1, e2, e3, Crowd.moved]

end Simulation

/-- **The state a tick produces is the same under every interleaving of its group tasks.**
For every schedule that gives each group task all its turns, the interleaved tick produces
exactly the state and statistics of the inline tick, run without a pool (the pool is left as it
was). The rewrite's own pooled tick, whenever the pool refuses no task, produces the same state
too, its pool having counted one task per group. And in the inline tick each pedestrian's new
state is its own checked move, a function of its own state, its group's start positions and the
index rebuilt for the tick. -/
theorem tick_same_under_every_interleaving (s : Simulation) (now dt : Float) :
    let inline := ({ s with pool := none }).tick now dt
    (∀ σ : Nat → List Nat, (∀ (j : Nat) (c : Crowd), s.crowds[j]? = some c → c.Covers (σ j)) →
        s.tickInterleaved now dt σ = ({ inline.1 with pool := s.pool }, inline.2)) ∧
      (PoolState.acceptsAll s.pool →
        s.tick now dt = ({ inline.1 with
          pool := s.pool.map fun ps =>
            { ps with total := ps.total + Simulation.taskCount s.crowds } },
          inline.2)) ∧
      (∀ (j k i : Nat) (c : Crowd) (g : Group) (p : Pedestrian), s.crowds[j]? = some c →
        c.groups[k]? = some g → g.members[i]? = some p →
        inline.1.member j k i = some (p.moveChecked (s.context now dt) (g.viewAt i)).1) := by
  intro inline
  have hnone : PoolState.acceptsAll ({ s with pool := none } : Simulation).pool := by
    intro ps h; cases h
  have hinline := Simulation.tick_eq { s with pool := none } now dt hnone
  refine ⟨fun σ hσ => ?_, fun hs => ?_, fun j k i c g p hc hg hp => ?_⟩
  · have hruns := Simulation.tickInterleaved_runs s now dt σ hσ
    have hcrowds := congrArg (List.map Prod.fst) hruns
    have hmoved := congrArg (List.map fun x => x.2.1) hruns
    have hfaults := congrArg (List.map fun x => x.2.2) hruns
    simp only [List.map_map, Function.comp_def] at hcrowds hmoved hfaults
    simp only [inline, hinline, Simulation.tickInterleaved]
    simp only [List.map_map, Function.comp_def] at *
    rw [hcrowds, hmoved, hfaults]
    rfl
  · rw [Simulation.tick_eq s now dt hs]
    simp only [inline, hinline]
    rfl
  · simp only [inline, Simulation.tick_member _ now dt hnone hc hg, hp, Option.map_some]
    rfl

/-- A crowd of two groups, of two walkers and of one, whose tasks take their turns interleaved:
the second task starts first, and each task's turns alternate with the other's before both end. -/
theorem tick_same_under_every_interleaving_interleaved :
    let s : Simulation := { (default : Simulation) with
      crowds := [⟨1, [⟨1, [{ (default : Pedestrian) with id := 1, position := ⟨0.0, 0.0⟩ },
          { (default : Pedestrian) with id := 2, position := ⟨1.0, 0.0⟩ }], Vec.zero⟩,
        ⟨2, [{ (default : Pedestrian) with id := 3, position := ⟨5.0, 5.0⟩ }], Vec.zero⟩], none⟩] }
    let σ : Nat → List Nat := fun _ => [1, 0, 0, 1, 0, 1, 0]
    (∀ (j : Nat) (c : Crowd), s.crowds[j]? = some c → c.Covers (σ j)) ∧
      s.tickInterleaved 0.0 0.1 σ =
        ({ (({ s with pool := none } : Simulation).tick 0.0 0.1).1 with pool := s.pool },
          (({ s with pool := none } : Simulation).tick 0.0 0.1).2) := by
  intro s σ
  have hσ : ∀ (j : Nat) (c : Crowd), s.crowds[j]? = some c → c.Covers (σ j) := by
    intro j c hc
    cases j with
    | succ j => simp [s] at hc
    | zero =>
      simp only [s, List.getElem?_cons_zero, Option.some.injEq] at hc
      subst hc
      -- the first task has two members and four turns, the second one member and three turns
      intro k g hg
      match k, hg with
      | 0, hg =>
        simp only [List.getElem?_cons_zero, Option.some.injEq] at hg
        subst hg
        decide
      | 1, hg =>
        simp only [List.getElem?_cons_succ, List.getElem?_cons_zero, Option.some.injEq] at hg
        subst hg
        decide
      | k + 2, hg => simp at hg
  exact ⟨hσ, (tick_same_under_every_interleaving s 0.0 0.1).1 σ hσ⟩

end CrowdSim
