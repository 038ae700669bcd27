import Mathlib
import CrowdSim.Proofs.TickShape

/-!
# The barrier of a crowd's move on the worker pool

With a worker pool, a crowd's move offers one task per group to the pool and then waits on a
barrier. The barrier is a counter that starts at the number of groups plus one. Every task counts
it down once as it ends, the dispatcher counts it down once for every group the pool refuses and
once more after offering the last group, and the count that reaches zero closes the barrier's
channel. The dispatcher returns when the channel is closed. The pool refuses a task when it is
closed or its queue is full; a fixed number of workers take queued tasks, each counting itself
active while inside a task and counting the task run when it leaves it.

This module states that protocol as a machine over the shared state (`MoveRun`). Every step of
the dispatcher and of the workers that touches shared state is a step of its own
(`MoveAction`), with three merges that no other party can observe: a refusal is counted by the
pool, the dispatcher and the barrier in one step (the dispatcher's own count keeps the barrier
shut meanwhile); a task's group move and the additions of its two counts are one step (nobody
reads them before the barrier opens); and a worker's two counter updates on leaving a task are
one step. A free worker may take any queued task, so the queue's first-in-first-out order is one
of the schedules. A schedule is any list of steps, a step that is not enabled doing nothing.

The invariant `MoveRun.Inv` ties every counter to the phases of the tasks (`tallyOf`), and holds
after every schedule (`MoveRun.run_inv`). From it:

* `MoveRun.closes_le_one`: the channel is never closed twice;
* `MoveRun.returned_all_ended`: when the dispatcher returns, the channel has been closed once
  and every task the pool accepted has ended;
* `MoveRun.returned_counts`: then the crowd's skipped count is the number of refusals, and its
  moved and faulted members are the members of the accepted groups;
* `MoveRun.can_return`: whatever the workers have done, some continuation returns.
-/

namespace CrowdSim

/-! ## The protocol -/

/-- The worker pool's shared state: whether it is closed, the capacity of its queue, its number
of workers and its three counters, and the workers still inside a task of a crowd whose barrier
has already opened. -/
structure PoolCounters where
  closed : Bool
  capacity : Nat
  workers : Nat
  active : Nat
  total : Nat
  rejected : Nat
  lingering : Nat

/-- Where the task of one group stands during its crowd's move. -/
inductive Phase where
  | waiting   -- not yet offered to the pool
  | queued
  | refused   -- the group is skipped this tick
  | running   -- a worker has taken it
  | moved     -- its group has moved and the counts are added
  | finished  -- it has counted the barrier down
  | left      -- its worker has left it
  deriving DecidableEq

/-- The phases after the group's move. -/
def Phase.hasMoved : Phase → Bool
  | .moved | .finished | .left => true
  | _ => false

/-- A group's task: the group as the tick found it, the group as it stands, and the phase. -/
structure Task where
  start : Group
  group : Group
  phase : Phase

/-- One crowd's move on the pool: the pool, the tasks, the dispatcher's progress, the barrier's
counter and channel, and the crowd's counts. -/
structure MoveRun where
  pool : PoolCounters
  tasks : List Task
  /-- The groups offered so far. -/
  next : Nat
  /-- The dispatcher still holds its extra count of the barrier. -/
  held : Bool
  pending : Int
  /-- How many times the barrier's channel has been closed. -/
  closes : Nat
  returned : Bool
  moved : Nat
  faults : Nat
  skipped : Nat

/-- The steps of the dispatcher and of the workers. -/
inductive MoveAction where
  /-- The dispatcher offers the next group's task to the pool. -/
  | offer
  /-- The dispatcher, every group offered, counts its own count down. -/
  | release
  /-- The dispatcher sees the channel closed and returns. -/
  | wake
  /-- A free worker takes queued task `i` and counts itself active. -/
  | start (i : Nat)
  /-- Task `i` moves its group and adds the group's counts. -/
  | body (i : Nat)
  /-- Task `i` counts the barrier down as it ends. -/
  | finish (i : Nat)
  /-- The worker of task `i` leaves it. -/
  | leave (i : Nat)
  /-- A worker still inside a task of an earlier crowd leaves it. -/
  | leaveEarlier

namespace MoveRun

/-- The move of `groups` before its first step. -/
def init (p : PoolCounters) (groups : List Group) : MoveRun :=
  ⟨p, groups.map fun g => ⟨g, g, .waiting⟩, 0, true, groups.length + 1, 0, false, 0, 0, 0⟩

/-- The tasks in the pool's queue. -/
def queueLength (r : MoveRun) : Nat := r.tasks.countP (·.phase = .queued)

/-- Counts the barrier down, closing its channel when the count reaches zero. -/
def countDown (r : MoveRun) : MoveRun :=
  { r with pending := r.pending - 1,
           closes := if r.pending - 1 = 0 then r.closes + 1 else r.closes }

/-- Task `i`, which is `t`, put in phase `ph`. -/
def setPhase (r : MoveRun) (i : Nat) (t : Task) (ph : Phase) : MoveRun :=
  { r with tasks := r.tasks.set i { t with phase := ph } }

/-- The pool refuses the offered task `t`: the pool, the crowd and the barrier count it. -/
def refuse (r : MoveRun) (t : Task) : MoveRun :=
  { (r.setPhase r.next t .refused).countDown with
    next := r.next + 1, skipped := r.skipped + 1,
    pool := { r.pool with rejected := r.pool.rejected + 1 } }

/-- The pool queues the offered task `t`. -/
def enqueue (r : MoveRun) (t : Task) : MoveRun := { r.setPhase r.next t .queued with next := r.next + 1 }

/-- A worker takes task `i`, which is `t`, and counts itself active. -/
def take (r : MoveRun) (i : Nat) (t : Task) : MoveRun :=
  { r.setPhase i t .running with pool := { r.pool with active := r.pool.active + 1 } }

/-- Task `i`, which is `t`, moves its group and adds the group's counts. -/
def moveGroup (tc : TickContext) (r : MoveRun) (i : Nat) (t : Task) : MoveRun :=
  { r with tasks := r.tasks.set i { t with group := (t.group.move tc).1, phase := .moved },
           moved := r.moved + (t.group.move tc).2.1, faults := r.faults + (t.group.move tc).2.2 }

/-- Task `i`, which is `t`, counts the barrier down as it ends. -/
def complete (r : MoveRun) (i : Nat) (t : Task) : MoveRun := (r.setPhase i t .finished).countDown

/-- The worker of task `i`, which is `t`, leaves it: one fewer active, one more task run. -/
def exit (r : MoveRun) (i : Nat) (t : Task) : MoveRun :=
  { r.setPhase i t .left with
    pool := { r.pool with active := r.pool.active - 1, total := r.pool.total + 1 } }

/-- A worker still inside a task of an earlier crowd leaves it. -/
def exitEarlier (r : MoveRun) : MoveRun :=
  { r with pool := { r.pool with lingering := r.pool.lingering - 1,
                                 active := r.pool.active - 1, total := r.pool.total + 1 } }

/-- Applies `k` to task `i` when it stands in phase `ph`; otherwise nothing happens. -/
def advance (r : MoveRun) (i : Nat) (ph : Phase) (k : Task → MoveRun) : MoveRun :=
  match r.tasks[i]? with
  | some t => if t.phase = ph then k t else r
  | none => r

/-- One step. -/
def step (tc : TickContext) (r : MoveRun) : MoveAction → MoveRun
  | .offer =>
    match r.held, r.tasks[r.next]? with
    | true, some t =>
      if r.pool.closed || decide (r.pool.capacity ≤ r.queueLength) then r.refuse t
      else r.enqueue t
    | _, _ => r
  | .release =>
    if r.held && r.next == r.tasks.length then { r.countDown with held := false } else r
  | .wake => if !r.held && decide (0 < r.closes) then { r with returned := true } else r
  | .start i => r.advance i .queued fun t =>
    if r.pool.active < r.pool.workers then r.take i t else r
  | .body i => r.advance i .running (r.moveGroup tc i)
  | .finish i => r.advance i .moved (r.complete i)
  | .leave i => r.advance i .finished (r.exit i)
  | .leaveEarlier => if 0 < r.pool.lingering then r.exitEarlier else r

/-- The move after the steps of a schedule, in order. -/
def run (tc : TickContext) (r : MoveRun) (σ : List MoveAction) : MoveRun := σ.foldl (step tc) r

/-- The pool as the move leaves it: the workers still inside a finished task now linger. -/
def poolAfter (r : MoveRun) : PoolCounters :=
  { r.pool with lingering := r.pool.lingering + r.tasks.countP (·.phase = .finished) }

end MoveRun

/-! ## Tallies of the tasks -/

/-- How many tasks stand in each phase, and the members moved and faulted by the groups that
have moved. -/
@[ext] structure Tally where
  waiting : Nat
  queued : Nat
  refused : Nat
  running : Nat
  moved : Nat
  finished : Nat
  left : Nat
  membersMoved : Nat
  membersFaulted : Nat

/-- Two tallies added field by field. -/
@[simps] def Tally.add (a b : Tally) : Tally :=
  ⟨a.waiting + b.waiting, a.queued + b.queued, a.refused + b.refused, a.running + b.running,
    a.moved + b.moved, a.finished + b.finished, a.left + b.left,
    a.membersMoved + b.membersMoved, a.membersFaulted + b.membersFaulted⟩

/-- The tally of one task. -/
@[simps] def Task.tally (tc : TickContext) (t : Task) : Tally :=
  ⟨if t.phase = .waiting then 1 else 0, if t.phase = .queued then 1 else 0,
    if t.phase = .refused then 1 else 0, if t.phase = .running then 1 else 0,
    if t.phase = .moved then 1 else 0, if t.phase = .finished then 1 else 0,
    if t.phase = .left then 1 else 0,
    if t.phase.hasMoved then (t.start.move tc).2.1 else 0,
    if t.phase.hasMoved then (t.start.move tc).2.2 else 0⟩

/-- The tally of a list of tasks. -/
def tallyOf (tc : TickContext) : List Task → Tally
  | [] => ⟨0, 0, 0, 0, 0, 0, 0, 0, 0⟩
  | t :: ts => (t.tally tc).add (tallyOf tc ts)

/-- **How a tally changes when one task changes.** -/
theorem tallyOf_set (tc : TickContext) {ts : List Task} {i : Nat} {t : Task}
    (h : ts[i]? = some t) (t' : Task) :
    (tallyOf tc (ts.set i t')).add (t.tally tc) = (tallyOf tc ts).add (t'.tally tc) := by
  induction ts generalizing i with
  | nil => simp at h
  | cons u ts ih =>
    cases i with
    | zero =>
      simp only [List.getElem?_cons_zero, Option.some.injEq] at h
      subst h
      ext <;> simp [tallyOf] <;> omega
    | succ i =>
      have e := ih (by simpa using h)
      rw [List.set_cons_succ]
      simp only [Tally.ext_iff, tallyOf, Tally.add_waiting, Tally.add_queued, Tally.add_refused,
        Tally.add_running, Tally.add_moved, Tally.add_finished, Tally.add_left,
        Tally.add_membersMoved, Tally.add_membersFaulted] at e ⊢
      omega

/-- Every task stands in exactly one phase. -/
theorem tallyOf_phases (tc : TickContext) (ts : List Task) :
    (tallyOf tc ts).waiting + (tallyOf tc ts).queued + (tallyOf tc ts).refused +
      (tallyOf tc ts).running + (tallyOf tc ts).moved + (tallyOf tc ts).finished +
      (tallyOf tc ts).left = ts.length := by
  induction ts with
  | nil => rfl
  | cons t ts ih =>
    simp only [tallyOf, Tally.add_waiting, Tally.add_queued, Tally.add_refused,
      Tally.add_running, Tally.add_moved, Tally.add_finished, Tally.add_left, Task.tally_waiting,
      Task.tally_queued, Task.tally_refused, Task.tally_running, Task.tally_moved,
      Task.tally_finished, Task.tally_left, List.length_cons]
    cases t.phase <;> simp <;> omega

/-- The number of tasks in phase `ph`. -/
def Tally.count (T : Tally) : Phase → Nat
  | .waiting => T.waiting
  | .queued => T.queued
  | .refused => T.refused
  | .running => T.running
  | .moved => T.moved
  | .finished => T.finished
  | .left => T.left

theorem tallyOf_count (tc : TickContext) (ts : List Task) (ph : Phase) :
    (tallyOf tc ts).count ph = ts.countP (·.phase = ph) := by
  induction ts with
  | nil => cases ph <;> rfl
  | cons t ts ih =>
    rw [List.countP_cons, ← ih]
    obtain ⟨s, g, q⟩ := t
    cases ph <;> cases q <;> simp [tallyOf, Tally.count] <;> omega

/-- A phase that some task stands in is the phase of a task at some index. -/
theorem exists_of_count_pos (tc : TickContext) {ts : List Task} (ph : Phase)
    (h : 0 < (tallyOf tc ts).count ph) : ∃ (i : Nat) (t : Task), ts[i]? = some t ∧ t.phase = ph := by
  rw [tallyOf_count, List.countP_pos_iff] at h
  obtain ⟨t, ht, hph⟩ := h
  obtain ⟨i, hi⟩ := List.mem_iff_getElem?.mp ht
  exact ⟨i, t, hi, by simpa using hph⟩

/-- The tasks of a move before its first step all wait. -/
theorem tallyOf_init (tc : TickContext) (groups : List Group) :
    tallyOf tc (groups.map fun g => ⟨g, g, .waiting⟩) = ⟨groups.length, 0, 0, 0, 0, 0, 0, 0, 0⟩ := by
  induction groups with
  | nil => rfl
  | cons g gs ih =>
    simp only [List.map_cons, tallyOf, ih]
    ext <;> simp [Phase.hasMoved, Nat.add_comm]

/-! ## The invariant -/

/-- A task holds its start group until the group has moved, and the start group's move after. -/
def Task.GroupFits (tc : TickContext) (t : Task) : Prop :=
  t.group = if t.phase.hasMoved then (t.start.move tc).1 else t.start

/-- A task put in a phase on the same side of the group's move still holds the right group. -/
theorem Task.GroupFits.setPhase {tc : TickContext} {t : Task} (h : t.GroupFits tc) (ph : Phase)
    (hm : ph.hasMoved = t.phase.hasMoved) : ({ t with phase := ph } : Task).GroupFits tc := by
  unfold Task.GroupFits at h ⊢
  rw [hm]
  exact h

/-- A property of every element survives replacing one of them by an element that has it. -/
theorem forall_mem_set {α : Type} {P : α → Prop} {l : List α} {i : Nat} {a : α}
    (hl : ∀ x ∈ l, P x) (ha : P a) : ∀ x ∈ l.set i a, P x := fun x hx =>
  (List.mem_or_eq_of_mem_set hx).elim (hl x) fun h => h ▸ ha

/-- Replacing a task by one with the same start group keeps the start groups. -/
theorem map_start_set {ts : List Task} {i : Nat} {t : Task} (hi : ts[i]? = some t) (t' : Task)
    (hs : t'.start = t.start) : (ts.set i t').map (·.start) = ts.map (·.start) := by
  obtain ⟨hlt, hget⟩ := List.getElem?_eq_some_iff.mp hi
  apply List.ext_getElem?
  intro j
  rw [List.getElem?_map, List.getElem?_map, List.getElem?_set]
  by_cases hij : i = j
  · subst hij
    simp [hlt, hget, hs]
  · simp [hij]

/-- The tasks before `n` have been offered and the others wait, after a task that has been
offered changes phase. -/
theorem order_set {ts : List Task} {n i : Nat} {t t' : Task} (hi : ts[i]? = some t)
    (ho : ∀ (j : Nat) (u : Task), ts[j]? = some u → (u.phase = .waiting ↔ n ≤ j))
    (ht : t.phase ≠ .waiting) (ht' : t'.phase ≠ .waiting) :
    ∀ (j : Nat) (u : Task), (ts.set i t')[j]? = some u → (u.phase = .waiting ↔ n ≤ j) := by
  intro j u hu
  rw [List.getElem?_set] at hu
  by_cases hij : i = j
  · subst hij
    simp only [if_true, (List.getElem?_eq_some_iff.mp hi).1, Option.some.injEq] at hu
    subst hu
    have hn : ¬ n ≤ i := fun hn => ht ((ho i t hi).mpr hn)
    simp [ht', hn]
  · simp only [hij, if_false] at hu
    exact ho j u hu

/-- The same, after the task at `n` is offered. -/
theorem order_offer {ts : List Task} {n : Nat} {t t' : Task} (hi : ts[n]? = some t)
    (ho : ∀ (j : Nat) (u : Task), ts[j]? = some u → (u.phase = .waiting ↔ n ≤ j))
    (ht' : t'.phase ≠ .waiting) :
    ∀ (j : Nat) (u : Task), (ts.set n t')[j]? = some u → (u.phase = .waiting ↔ n + 1 ≤ j) := by
  intro j u hu
  rw [List.getElem?_set] at hu
  by_cases hij : n = j
  · subst hij
    simp only [if_true, (List.getElem?_eq_some_iff.mp hi).1, Option.some.injEq] at hu
    subst hu
    simp [ht']
  · simp only [hij, if_false] at hu
    rw [ho j u hu]
    omega

namespace MoveRun

/-- What holds of a move of the groups `gs`, begun on the pool `p`, after every schedule. The
tasks are the groups' tasks in order, each holding the group its phase says, those before `next`
offered. Every counter is what the phases of the tasks make it. And the pool's policy shows in
the phases: a closed pool refuses every task, an open pool whose queue holds all the groups
refuses none. -/
structure Inv (tc : TickContext) (p : PoolCounters) (gs : List Group) (r : MoveRun) : Prop where
  starts : r.tasks.map (·.start) = gs
  groups : ∀ t ∈ r.tasks, t.GroupFits tc
  order : ∀ (i : Nat) (t : Task), r.tasks[i]? = some t → (t.phase = .waiting ↔ r.next ≤ i)
  closed : r.pool.closed = p.closed
  capacity : r.pool.capacity = p.capacity
  workers : r.pool.workers = p.workers
  offered : r.next + (tallyOf tc r.tasks).waiting = gs.length
  pending : r.pending + (tallyOf tc r.tasks).refused + (tallyOf tc r.tasks).finished +
    (tallyOf tc r.tasks).left + (if r.held then 0 else 1) = gs.length + 1
  closes : r.closes = if r.pending = 0 then 1 else 0
  returned : r.returned = true → r.pending = 0
  skipped : r.skipped = (tallyOf tc r.tasks).refused
  rejected : r.pool.rejected = p.rejected + (tallyOf tc r.tasks).refused
  active : r.pool.active = r.pool.lingering + (tallyOf tc r.tasks).running +
    (tallyOf tc r.tasks).moved + (tallyOf tc r.tasks).finished
  total : r.pool.total + r.pool.lingering = p.total + p.lingering + (tallyOf tc r.tasks).left
  moved : r.moved = (tallyOf tc r.tasks).membersMoved
  faults : r.faults = (tallyOf tc r.tasks).membersFaulted
  closedRefuses : p.closed = true → (tallyOf tc r.tasks).queued + (tallyOf tc r.tasks).running +
    (tallyOf tc r.tasks).moved + (tallyOf tc r.tasks).finished + (tallyOf tc r.tasks).left = 0
  openAccepts : p.closed = false → gs.length ≤ p.capacity → (tallyOf tc r.tasks).refused = 0
  released : r.held = false → r.next = gs.length
  lingering : r.pool.lingering ≤ p.lingering

variable {tc : TickContext} {p : PoolCounters} {gs : List Group} {r : MoveRun}

theorem Inv.length (h : r.Inv tc p gs) : r.tasks.length = gs.length := by
  rw [← h.starts, List.length_map]

/-- A move begins with every task waiting, on a pool whose active workers are all lingering. -/
theorem init_inv (tc : TickContext) {p : PoolCounters} (hp : p.active = p.lingering)
    (gs : List Group) : (init p gs).Inv tc p gs := by
  have hT := tallyOf_init tc gs
  constructor
  case closes =>
    have hne : (init p gs).pending ≠ 0 := by simp only [init]; omega
    rw [if_neg hne]
    rfl
  all_goals simp [init, hT, Task.GroupFits, Phase.hasMoved, Function.comp_def, hp]

theorem queueLength_eq (tc : TickContext) (r : MoveRun) :
    r.queueLength = (tallyOf tc r.tasks).queued :=
  (tallyOf_count tc r.tasks .queued).symm

/-- The pool refusing the offered task keeps the invariant. The dispatcher still holds its count
and the offered task still waits, so the barrier's count stays above zero. -/
theorem Inv.refuse (h : r.Inv tc p gs) {t : Task} (hheld : r.held = true)
    (hi : r.tasks[r.next]? = some t) (hfull : p.closed = true ∨ p.capacity ≤ r.queueLength) :
    (r.refuse t).Inv tc p gs := by
  have hw : t.phase = .waiting := (h.order r.next t hi).mpr le_rfl
  have hfit := (h.groups t (List.mem_of_getElem? hi)).setPhase
    .refused (by simp [hw, Phase.hasMoved])
  have e := tallyOf_set tc hi { t with phase := .refused }
  simp [Tally.ext_iff, hw, Phase.hasMoved] at e
  have hsize := tallyOf_phases tc r.tasks
  have hlen := h.length
  have hq := queueLength_eq tc r
  have hh : (if r.held then (0 : Int) else 1) = 0 := by simp [hheld]
  rcases h with ⟨hs, hg, ho, hcl, hcap, hwk, hoff, hpend, hclo, hret, hskip, hrej, hact, htot,
    hmov, hflt, hcr, hoa, hrel, hlg⟩
  have hpos : r.pending ≠ 0 := by omega
  simp only [MoveRun.refuse, MoveRun.setPhase, MoveRun.countDown]
  constructor
  all_goals dsimp only
  case starts => rw [map_start_set hi { t with phase := .refused } rfl, hs]
  case groups => exact forall_mem_set hg hfit
  case order => exact order_offer hi ho (by simp)
  case closed => exact hcl
  case capacity => exact hcap
  case workers => exact hwk
  case closes => rw [hclo, if_neg hpos]; simp
  case returned => intro hr; have := hret hr; omega
  case closedRefuses => intro hc; have := hcr hc; omega
  case openAccepts =>
    -- an open pool refuses only when its queue is full, and the queue holds offered tasks only
    intro hc hn
    rcases hfull with hc' | hfull
    · rw [hc] at hc'; cases hc'
    · omega
  case released => intro h'; rw [hheld] at h'; cases h'
  all_goals omega

/-- The pool queueing the offered task keeps the invariant. -/
theorem Inv.enqueue (h : r.Inv tc p gs) {t : Task} (hheld : r.held = true)
    (hi : r.tasks[r.next]? = some t) (hopen : p.closed = false) : (r.enqueue t).Inv tc p gs := by
  have hw : t.phase = .waiting := (h.order r.next t hi).mpr le_rfl
  have hfit := (h.groups t (List.mem_of_getElem? hi)).setPhase
    .queued (by simp [hw, Phase.hasMoved])
  have e := tallyOf_set tc hi { t with phase := .queued }
  simp [Tally.ext_iff, hw, Phase.hasMoved] at e
  rcases h with ⟨hs, hg, ho, hcl, hcap, hwk, hoff, hpend, hclo, hret, hskip, hrej, hact, htot,
    hmov, hflt, hcr, hoa, hrel, hlg⟩
  simp only [MoveRun.enqueue, MoveRun.setPhase]
  constructor
  all_goals dsimp only
  case starts => rw [map_start_set hi { t with phase := .queued } rfl, hs]
  case groups => exact forall_mem_set hg hfit
  case order => exact order_offer hi ho (by simp)
  case closed => exact hcl
  case capacity => exact hcap
  case workers => exact hwk
  case closes => exact hclo
  case returned => exact hret
  case closedRefuses => intro hc; rw [hc] at hopen; cases hopen
  case openAccepts => intro hc hn; have := hoa hc hn; omega
  case released => intro h'; rw [hheld] at h'; cases h'
  all_goals omega

/-- A worker taking a queued task keeps the invariant. -/
theorem Inv.take (h : r.Inv tc p gs) {i : Nat} {t : Task} (hi : r.tasks[i]? = some t)
    (hq : t.phase = .queued) : (r.take i t).Inv tc p gs := by
  have hfit := (h.groups t (List.mem_of_getElem? hi)).setPhase
    .running (by simp [hq, Phase.hasMoved])
  have e := tallyOf_set tc hi { t with phase := .running }
  simp [Tally.ext_iff, hq, Phase.hasMoved] at e
  rcases h with ⟨hs, hg, ho, hcl, hcap, hwk, hoff, hpend, hclo, hret, hskip, hrej, hact, htot,
    hmov, hflt, hcr, hoa, hrel, hlg⟩
  simp only [MoveRun.take, MoveRun.setPhase]
  constructor
  all_goals dsimp only
  case starts => rw [map_start_set hi { t with phase := .running } rfl, hs]
  case groups => exact forall_mem_set hg hfit
  case order => exact order_set hi ho (by simp [hq]) (by simp)
  case closed => exact hcl
  case capacity => exact hcap
  case workers => exact hwk
  case closes => exact hclo
  case returned => exact hret
  case closedRefuses => intro hc; have := hcr hc; omega
  case openAccepts => intro hc hn; have := hoa hc hn; omega
  case released => exact hrel
  all_goals omega

/-- A task moving its group keeps the invariant: the group it moves is still its start group,
so the counts it adds are the start group's. -/
theorem Inv.moveGroup (h : r.Inv tc p gs) {i : Nat} {t : Task} (hi : r.tasks[i]? = some t)
    (hr : t.phase = .running) : (r.moveGroup tc i t).Inv tc p gs := by
  have hstart : t.group = t.start := by
    have := h.groups t (List.mem_of_getElem? hi)
    simpa [Task.GroupFits, hr, Phase.hasMoved] using this
  have hfit : ({ t with group := (t.start.move tc).1, phase := .moved } : Task).GroupFits tc := by
    simp [Task.GroupFits, Phase.hasMoved]
  have e := tallyOf_set tc hi { t with group := (t.start.move tc).1, phase := .moved }
  simp [Tally.ext_iff, hr, Phase.hasMoved] at e
  rcases h with ⟨hs, hg, ho, hcl, hcap, hwk, hoff, hpend, hclo, hret, hskip, hrej, hact, htot,
    hmov, hflt, hcr, hoa, hrel, hlg⟩
  simp only [MoveRun.moveGroup, hstart]
  constructor
  all_goals dsimp only
  case starts =>
    rw [map_start_set hi { t with group := (t.start.move tc).1, phase := .moved } rfl, hs]
  case groups => exact forall_mem_set hg hfit
  case order => exact order_set hi ho (by simp [hr]) (by simp)
  case closed => exact hcl
  case capacity => exact hcap
  case workers => exact hwk
  case closes => exact hclo
  case returned => exact hret
  case closedRefuses => intro hc; have := hcr hc; omega
  case openAccepts => intro hc hn; have := hoa hc hn; omega
  case released => exact hrel
  all_goals omega

/-- A task counting the barrier down as it ends keeps the invariant. Its own count is still in
the barrier, so the count stays at least zero. -/
theorem Inv.complete (h : r.Inv tc p gs) {i : Nat} {t : Task} (hi : r.tasks[i]? = some t)
    (hm : t.phase = .moved) : (r.complete i t).Inv tc p gs := by
  have hfit := (h.groups t (List.mem_of_getElem? hi)).setPhase
    .finished (by simp [hm, Phase.hasMoved])
  have e := tallyOf_set tc hi { t with phase := .finished }
  simp [Tally.ext_iff, hm, Phase.hasMoved] at e
  have hsize := tallyOf_phases tc r.tasks
  have hlen := h.length
  have hh : (if r.held then (0 : Int) else 1) ≤ 1 := by split <;> omega
  rcases h with ⟨hs, hg, ho, hcl, hcap, hwk, hoff, hpend, hclo, hret, hskip, hrej, hact, htot,
    hmov, hflt, hcr, hoa, hrel, hlg⟩
  have hpos : r.pending ≠ 0 := by omega
  simp only [MoveRun.complete, MoveRun.setPhase, MoveRun.countDown]
  constructor
  all_goals dsimp only
  case starts => rw [map_start_set hi { t with phase := .finished } rfl, hs]
  case groups => exact forall_mem_set hg hfit
  case order => exact order_set hi ho (by simp [hm]) (by simp)
  case closed => exact hcl
  case capacity => exact hcap
  case workers => exact hwk
  case closes => rw [hclo, if_neg hpos]; simp
  case returned => intro hr; have := hret hr; omega
  case closedRefuses => intro hc; have := hcr hc; omega
  case openAccepts => intro hc hn; have := hoa hc hn; omega
  case released => exact hrel
  all_goals omega

/-- A worker leaving a finished task keeps the invariant. -/
theorem Inv.exit (h : r.Inv tc p gs) {i : Nat} {t : Task} (hi : r.tasks[i]? = some t)
    (hf : t.phase = .finished) : (r.exit i t).Inv tc p gs := by
  have hfit := (h.groups t (List.mem_of_getElem? hi)).setPhase
    .left (by simp [hf, Phase.hasMoved])
  have e := tallyOf_set tc hi { t with phase := .left }
  simp [Tally.ext_iff, hf, Phase.hasMoved] at e
  rcases h with ⟨hs, hg, ho, hcl, hcap, hwk, hoff, hpend, hclo, hret, hskip, hrej, hact, htot,
    hmov, hflt, hcr, hoa, hrel, hlg⟩
  simp only [MoveRun.exit, MoveRun.setPhase]
  constructor
  all_goals dsimp only
  case starts => rw [map_start_set hi { t with phase := .left } rfl, hs]
  case groups => exact forall_mem_set hg hfit
  case order => exact order_set hi ho (by simp [hf]) (by simp)
  case closed => exact hcl
  case capacity => exact hcap
  case workers => exact hwk
  case closes => exact hclo
  case returned => exact hret
  case closedRefuses => intro hc; have := hcr hc; omega
  case openAccepts => intro hc hn; have := hoa hc hn; omega
  case released => exact hrel
  all_goals omega

/-- A worker leaving a task of an earlier crowd keeps the invariant. -/
theorem Inv.exitEarlier (h : r.Inv tc p gs) (hl : 0 < r.pool.lingering) :
    r.exitEarlier.Inv tc p gs := by
  rcases h with ⟨hs, hg, ho, hcl, hcap, hwk, hoff, hpend, hclo, hret, hskip, hrej, hact, htot,
    hmov, hflt, hcr, hoa, hrel, hlg⟩
  simp only [MoveRun.exitEarlier]
  constructor
  all_goals dsimp only
  case starts => exact hs
  case groups => exact hg
  case order => exact ho
  case closed => exact hcl
  case capacity => exact hcap
  case workers => exact hwk
  case closes => exact hclo
  case returned => exact hret
  case closedRefuses => exact hcr
  case openAccepts => exact hoa
  case released => exact hrel
  all_goals omega

/-- The dispatcher counting its own count down keeps the invariant: every group offered, no task
waits, so the count stays at least zero. -/
theorem Inv.release (h : r.Inv tc p gs) (hheld : r.held = true) (hn : r.next = r.tasks.length) :
    ({ r.countDown with held := false }).Inv tc p gs := by
  have hsize := tallyOf_phases tc r.tasks
  have hlen := h.length
  have hh : (if r.held then (0 : Int) else 1) = 0 := by simp [hheld]
  rcases h with ⟨hs, hg, ho, hcl, hcap, hwk, hoff, hpend, hclo, hret, hskip, hrej, hact, htot,
    hmov, hflt, hcr, hoa, hrel, hlg⟩
  have hpos : r.pending ≠ 0 := by omega
  simp only [MoveRun.countDown]
  constructor
  all_goals dsimp only
  case starts => exact hs
  case groups => exact hg
  case order => exact ho
  case closed => exact hcl
  case capacity => exact hcap
  case workers => exact hwk
  case closes => rw [hclo, if_neg hpos]
  case returned => intro hr; have := hret hr; omega
  case closedRefuses => exact hcr
  case openAccepts => exact hoa
  case pending => simp only [Bool.false_eq_true, if_false]; omega
  case released => intro _; omega
  all_goals omega

/-- The dispatcher returning keeps the invariant: it returns only once the channel is closed,
that is once the count is zero. -/
theorem Inv.wake (h : r.Inv tc p gs) (hc : 0 < r.closes) :
    ({ r with returned := true }).Inv tc p gs := by
  have hzero : r.pending = 0 := by
    have := h.closes
    split at this <;> omega
  exact { h with returned := fun _ => hzero }

/-! ## Every schedule -/

theorem advance_cases (r : MoveRun) (i : Nat) (ph : Phase) (k : Task → MoveRun) :
    r.advance i ph k = r ∨ ∃ t, r.tasks[i]? = some t ∧ t.phase = ph ∧ r.advance i ph k = k t := by
  unfold advance
  split
  · next t ht =>
    by_cases hp : t.phase = ph
    · exact .inr ⟨t, ht, hp, by simp [hp]⟩
    · exact .inl (by simp [hp])
  · exact .inl rfl

/-- **Every step keeps the invariant.** -/
theorem Inv.step (h : r.Inv tc p gs) (a : MoveAction) : (r.step tc a).Inv tc p gs := by
  cases a with
  | offer =>
    simp only [MoveRun.step]
    split
    · next t hheld hi =>
      split
      · next hfull =>
        refine h.refuse hheld hi ?_
        rw [← h.closed, ← h.capacity]
        simpa using hfull
      · next hroom =>
        refine h.enqueue hheld hi ?_
        rw [← h.closed]
        simp at hroom
        exact hroom.1
    · exact h
  | release =>
    simp only [MoveRun.step]
    split
    · next hr =>
      simp only [Bool.and_eq_true, beq_iff_eq] at hr
      exact h.release hr.1 hr.2
    · exact h
  | wake =>
    simp only [MoveRun.step]
    split
    · next hw =>
      simp only [Bool.and_eq_true, decide_eq_true_eq] at hw
      exact h.wake hw.2
    · exact h
  | start i =>
    simp only [MoveRun.step]
    rcases advance_cases r i .queued _ with e | ⟨t, hi, hq, e⟩ <;> rw [e]
    · exact h
    · split
      · exact h.take hi hq
      · exact h
  | body i =>
    simp only [MoveRun.step]
    rcases advance_cases r i .running _ with e | ⟨t, hi, hr, e⟩ <;> rw [e]
    · exact h
    · exact h.moveGroup hi hr
  | finish i =>
    simp only [MoveRun.step]
    rcases advance_cases r i .moved _ with e | ⟨t, hi, hm, e⟩ <;> rw [e]
    · exact h
    · exact h.complete hi hm
  | leave i =>
    simp only [MoveRun.step]
    rcases advance_cases r i .finished _ with e | ⟨t, hi, hf, e⟩ <;> rw [e]
    · exact h
    · exact h.exit hi hf
  | leaveEarlier =>
    simp only [MoveRun.step]
    split
    · next hl => exact h.exitEarlier hl
    · exact h

/-- **Every schedule keeps the invariant.** -/
theorem Inv.run (h : r.Inv tc p gs) (σ : List MoveAction) : (r.run tc σ).Inv tc p gs := by
  induction σ generalizing r with
  | nil => exact h
  | cons a σ ih => exact ih (h.step a)


/-! ## The barrier at return -/

/-- **The barrier's channel is never closed twice.** -/
theorem Inv.closes_le_one (h : r.Inv tc p gs) : r.closes ≤ 1 := by
  rw [h.closes]
  split <;> omega

/-- No task stands in a phase whose count is zero. -/
theorem phase_ne_of_count_zero {ts : List Task} {ph : Phase} (h : (tallyOf tc ts).count ph = 0) :
    ∀ t ∈ ts, t.phase ≠ ph := by
  rw [tallyOf_count, List.countP_eq_zero] at h
  intro t ht hph
  exact h t ht (by simp [hph])

/-- Once the dispatcher has given up its count, the barrier holds one count for each group whose
task has not ended. -/
theorem Inv.pending_of_released (h : r.Inv tc p gs) (hheld : r.held = false) :
    r.pending + (tallyOf tc r.tasks).refused + (tallyOf tc r.tasks).finished +
      (tallyOf tc r.tasks).left = gs.length := by
  have hpend := h.pending
  simp only [hheld, Bool.false_eq_true, if_false] at hpend
  omega

/-- **When the dispatcher returns, the channel has been closed once and every task has ended**:
the dispatcher has given up its count, and each group was refused or its task has finished. -/
theorem Inv.returned_all_ended (h : r.Inv tc p gs) (hr : r.returned = true) :
    r.closes = 1 ∧ r.held = false ∧
      ∀ t ∈ r.tasks, t.phase = .refused ∨ t.phase = .finished ∨ t.phase = .left := by
  have hz := h.returned hr
  have hsize := tallyOf_phases tc r.tasks
  have hlen := h.length
  have hpend := h.pending
  -- the count reached zero, so all `gs.length + 1` counts were given: the dispatcher's and one
  -- for every task
  have hheld : r.held = false := by
    cases hh : r.held
    · rfl
    · simp only [hh, if_true] at hpend
      omega
  replace hpend := h.pending_of_released hheld
  refine ⟨by rw [h.closes, if_pos hz], hheld, fun t ht => ?_⟩
  have hzero : ∀ ph, ph = Phase.waiting ∨ ph = .queued ∨ ph = .running ∨ ph = .moved →
      (tallyOf tc r.tasks).count ph = 0 := by
    rintro ph (rfl | rfl | rfl | rfl) <;> simp only [Tally.count] <;> omega
  cases hp : t.phase
  case refused => exact .inl rfl
  case finished => exact .inr (.inl rfl)
  case left => exact .inr (.inr rfl)
  all_goals exact absurd hp (phase_ne_of_count_zero (hzero _ (by simp)) t ht)

/-- A group's move counts every member once, as moved or as faulted. -/
theorem Group.move_counts (g : Group) (tc : TickContext) :
    (g.move tc).2.1 + (g.move tc).2.2 = g.members.length := by
  have h := List.length_eq_countP_add_countP (fun pi => (g.memberMove tc pi).2)
    (l := g.members.zipIdx)
  rw [Group.move_eq]
  dsimp only
  simp only [List.length_zipIdx, Bool.not_eq_true] at h
  simp only [Bool.decide_eq_false] at h
  omega

/-- The members a tally counts as moved are those the moves of the moved groups count. -/
theorem tallyOf_membersMoved (ts : List Task) :
    (tallyOf tc ts).membersMoved =
      ((ts.filter (·.phase.hasMoved)).map fun t => (t.start.move tc).2.1).sum := by
  induction ts with
  | nil => rfl
  | cons t ts ih =>
    simp only [tallyOf, Tally.add_membersMoved, Task.tally_membersMoved, List.filter_cons, ih]
    cases t.phase.hasMoved <;> simp

/-- The members a tally counts as faulted are those the moves of the moved groups count. -/
theorem tallyOf_membersFaulted (ts : List Task) :
    (tallyOf tc ts).membersFaulted =
      ((ts.filter (·.phase.hasMoved)).map fun t => (t.start.move tc).2.2).sum := by
  induction ts with
  | nil => rfl
  | cons t ts ih =>
    simp only [tallyOf, Tally.add_membersFaulted, Task.tally_membersFaulted, List.filter_cons, ih]
    cases t.phase.hasMoved <;> simp

/-- The members moved and faulted by the tasks are the members of the groups that have moved. -/
theorem tallyOf_members (ts : List Task) :
    (tallyOf tc ts).membersMoved + (tallyOf tc ts).membersFaulted =
      ((ts.filter (·.phase.hasMoved)).map (·.start.members.length)).sum := by
  rw [tallyOf_membersMoved, tallyOf_membersFaulted, ← List.sum_map_add]
  congr 1
  apply List.map_congr_left
  intro t _
  exact Group.move_counts t.start tc

/-- **The crowd's counts when the dispatcher returns.** It skipped exactly the refused groups,
each counted by the pool too; its moved and faulted members are the members of the other groups;
a closed pool refused every group, and an open pool whose queue holds all the groups refused
none. -/
theorem Inv.returned_counts (h : r.Inv tc p gs) (hr : r.returned = true) :
    r.skipped = r.tasks.countP (·.phase = .refused) ∧
      r.pool.rejected = p.rejected + r.skipped ∧
      r.moved + r.faults =
        ((r.tasks.filter (·.phase ≠ .refused)).map (·.start.members.length)).sum ∧
      (p.closed = true → r.skipped = gs.length) ∧
      (p.closed = false → gs.length ≤ p.capacity → r.skipped = 0) := by
  obtain ⟨-, -, hend⟩ := h.returned_all_ended hr
  have hsize := tallyOf_phases tc r.tasks
  have hlen := h.length
  have hrefused := tallyOf_count tc r.tasks .refused
  simp only [Tally.count] at hrefused
  refine ⟨h.skipped.trans hrefused, by rw [h.rejected, h.skipped], ?_, ?_, ?_⟩
  · -- at return a task has moved its group exactly when the pool did not refuse it
    have hsame : r.tasks.filter (·.phase ≠ .refused) = r.tasks.filter (·.phase.hasMoved) := by
      apply List.filter_congr
      intro t ht
      rcases hend t ht with hp | hp | hp <;> simp [hp, Phase.hasMoved]
    rw [h.moved, h.faults, tallyOf_members, hsame]
  · intro hc
    have := h.closedRefuses hc
    have hz := h.returned hr
    have hpend := h.pending_of_released (h.returned_all_ended hr).2.1
    have := h.skipped
    omega
  · intro hc hn
    rw [h.skipped, h.openAccepts hc hn]

/-- **The pool when the dispatcher returns.** Its configuration is the same, its active workers
are those still leaving a task, its tasks run (those left or still leaving) grew by the accepted
groups and its refusals by the skipped ones. -/
theorem Inv.returned_pool (h : r.Inv tc p gs) (hr : r.returned = true) :
    r.poolAfter.closed = p.closed ∧ r.poolAfter.capacity = p.capacity ∧
      r.poolAfter.workers = p.workers ∧ r.poolAfter.active = r.poolAfter.lingering ∧
      r.poolAfter.total + r.poolAfter.lingering = p.total + p.lingering + (gs.length - r.skipped) ∧
      r.poolAfter.rejected = p.rejected + r.skipped := by
  obtain ⟨-, hheld, -⟩ := h.returned_all_ended hr
  have hsize := tallyOf_phases tc r.tasks
  have hlen := h.length
  have hfin := tallyOf_count tc r.tasks .finished
  simp only [Tally.count] at hfin
  have hz := h.returned hr
  have hpend := h.pending_of_released hheld
  have := h.active
  have := h.total
  have := h.skipped
  refine ⟨h.closed, h.capacity, h.workers, ?_, ?_, by rw [poolAfter, h.rejected, h.skipped]⟩
  · simp only [poolAfter]
    omega
  · simp only [poolAfter]
    omega

end MoveRun

/-! ## The dispatcher can always return -/

/-- How far a task has come in its life; a refused task has come as far as any. -/
def Phase.rank : Phase → Nat
  | .waiting => 0
  | .queued => 1
  | .running => 2
  | .moved => 3
  | .finished => 4
  | .left => 5
  | .refused => 6

/-- How far the tasks of a tally have come together. -/
def Tally.rank (T : Tally) : Nat :=
  T.queued + 2 * T.running + 3 * T.moved + 4 * T.finished + 5 * T.left + 6 * T.refused

theorem Tally.rank_add (a b : Tally) : (a.add b).rank = a.rank + b.rank := by
  simp only [Tally.rank, Tally.add_queued, Tally.add_running, Tally.add_moved,
    Tally.add_finished, Tally.add_left, Tally.add_refused]
  omega

theorem Task.rank_tally (t : Task) : (t.tally tc).rank = t.phase.rank := by
  obtain ⟨s, g, q⟩ := t
  cases q <;> simp [Tally.rank, Phase.rank]

/-- How the tasks' rank changes when one task changes. -/
theorem tallyOf_rank_set (tc : TickContext) {ts : List Task} {i : Nat} {t : Task}
    (hi : ts[i]? = some t) (t' : Task) :
    (tallyOf tc (ts.set i t')).rank + t.phase.rank = (tallyOf tc ts).rank + t'.phase.rank := by
  have e := congrArg Tally.rank (tallyOf_set tc hi t')
  rwa [Tally.rank_add, Tally.rank_add, Task.rank_tally, Task.rank_tally] at e

namespace MoveRun

/-- The progress of a move: how far its tasks have come, whether the dispatcher has given up its
count and returned, and the tasks its workers have left. Every step that does something raises
it. -/
def progress (tc : TickContext) (r : MoveRun) : Nat :=
  (tallyOf tc r.tasks).rank + (!r.held).toNat + r.returned.toNat + r.pool.total

variable {tc : TickContext} {p : PoolCounters} {gs : List Group} {r : MoveRun}

/-- The progress never exceeds a bound set by the move's start. -/
theorem Inv.progress_le (h : r.Inv tc p gs) :
    r.progress tc ≤ 7 * gs.length + 2 + p.total + p.lingering := by
  have hsize := tallyOf_phases tc r.tasks
  have hlen := h.length
  have htot := h.total
  have := Bool.toNat_le (!r.held)
  have := Bool.toNat_le r.returned
  unfold progress Tally.rank
  omega

theorem advance_of {i : Nat} {t : Task} {ph : Phase} (hi : r.tasks[i]? = some t)
    (hp : t.phase = ph) (k : Task → MoveRun) : r.advance i ph k = k t := by
  simp [advance, hi, hp]

theorem progress_refuse {t : Task} (hi : r.tasks[r.next]? = some t) (hw : t.phase = .waiting) :
    (r.refuse t).progress tc = r.progress tc + 6 := by
  have e := tallyOf_rank_set tc hi { t with phase := .refused }
  simp only [hw, Phase.rank] at e
  simp only [progress, refuse, setPhase, countDown]
  omega

theorem progress_enqueue {t : Task} (hi : r.tasks[r.next]? = some t) (hw : t.phase = .waiting) :
    (r.enqueue t).progress tc = r.progress tc + 1 := by
  have e := tallyOf_rank_set tc hi { t with phase := .queued }
  simp only [hw, Phase.rank] at e
  simp only [progress, enqueue, setPhase]
  omega

theorem progress_take {i : Nat} {t : Task} (hi : r.tasks[i]? = some t) (hq : t.phase = .queued) :
    (r.take i t).progress tc = r.progress tc + 1 := by
  have e := tallyOf_rank_set tc hi { t with phase := .running }
  simp only [hq, Phase.rank] at e
  simp only [progress, MoveRun.take, setPhase]
  omega

theorem progress_moveGroup {i : Nat} {t : Task} (hi : r.tasks[i]? = some t)
    (hr : t.phase = .running) : (r.moveGroup tc i t).progress tc = r.progress tc + 1 := by
  have e := tallyOf_rank_set tc hi
    { t with group := (t.group.move tc).1, phase := .moved }
  simp only [hr, Phase.rank] at e
  simp only [progress, moveGroup]
  omega

theorem progress_complete {i : Nat} {t : Task} (hi : r.tasks[i]? = some t)
    (hm : t.phase = .moved) : (r.complete i t).progress tc = r.progress tc + 1 := by
  have e := tallyOf_rank_set tc hi { t with phase := .finished }
  simp only [hm, Phase.rank] at e
  simp only [progress, complete, setPhase, countDown]
  omega

theorem progress_exit {i : Nat} {t : Task} (hi : r.tasks[i]? = some t)
    (hf : t.phase = .finished) : (r.exit i t).progress tc = r.progress tc + 2 := by
  have e := tallyOf_rank_set tc hi { t with phase := .left }
  simp only [hf, Phase.rank] at e
  simp only [progress, MoveRun.exit, setPhase]
  omega

/-- **A move that has not returned can always take a step that does something.** The dispatcher
offers, gives up its count or returns; otherwise the barrier's count is not zero, so some accepted
task has not ended, and it can go on, or every worker is busy and one of them can leave its
task. -/
theorem Inv.exists_progress (h : r.Inv tc p gs) (hr : r.returned = false) (hw : 0 < p.workers) :
    ∃ a, r.progress tc < (r.step tc a).progress tc := by
  have hsize := tallyOf_phases tc r.tasks
  have hlen := h.length
  have hoff := h.offered
  cases hheld : r.held
  case true =>
    by_cases hn : r.next < r.tasks.length
    · -- the dispatcher offers the next group
      obtain ⟨t, hi⟩ : ∃ t, r.tasks[r.next]? = some t := ⟨_, List.getElem?_eq_getElem hn⟩
      have hwt : t.phase = .waiting := (h.order r.next t hi).mpr le_rfl
      refine ⟨.offer, ?_⟩
      simp only [MoveRun.step, hheld, hi]
      split
      · rw [progress_refuse hi hwt]
        omega
      · rw [progress_enqueue hi hwt]
        omega
    · -- every group offered: the dispatcher gives up its count
      have hnext : r.next = r.tasks.length := by omega
      refine ⟨.release, ?_⟩
      simp [MoveRun.step, hheld, hnext, progress, countDown]
  case false =>
    by_cases hc : 0 < r.closes
    · refine ⟨.wake, ?_⟩
      simp [MoveRun.step, hheld, hc, progress, hr]
    · -- the count is not zero, so a task the pool accepted has not ended
      have hpos : r.pending ≠ 0 := by
        intro hz
        have := h.closes
        rw [if_pos hz] at this
        omega
      have hpend := h.pending_of_released hheld
      have hnext := h.released hheld
      by_cases hru : 0 < (tallyOf tc r.tasks).running
      · obtain ⟨i, t, hi, hp⟩ := exists_of_count_pos tc .running hru
        exact ⟨.body i, by rw [MoveRun.step, advance_of hi hp, progress_moveGroup hi hp]; omega⟩
      by_cases hm : 0 < (tallyOf tc r.tasks).moved
      · obtain ⟨i, t, hi, hp⟩ := exists_of_count_pos tc .moved hm
        exact ⟨.finish i, by rw [MoveRun.step, advance_of hi hp, progress_complete hi hp]; omega⟩
      have hq : 0 < (tallyOf tc r.tasks).queued := by omega
      obtain ⟨i, t, hi, hp⟩ := exists_of_count_pos tc .queued hq
      by_cases hact : r.pool.active < r.pool.workers
      · refine ⟨.start i, ?_⟩
        rw [MoveRun.step, advance_of hi hp]
        simp only [hact, if_true]
        rw [progress_take hi hp]
        omega
      -- every worker is busy, and none is inside a running or moved task: one is leaving a task
      have hact' := h.active
      have hwk := h.workers
      by_cases hl : 0 < r.pool.lingering
      · refine ⟨.leaveEarlier, ?_⟩
        simp [MoveRun.step, hl, progress, MoveRun.exitEarlier]
      · have hf : 0 < (tallyOf tc r.tasks).finished := by omega
        obtain ⟨j, u, hj, hu⟩ := exists_of_count_pos tc .finished hf
        exact ⟨.leave j, by rw [MoveRun.step, advance_of hj hu, progress_exit hj hu]; omega⟩

/-- **Whatever the workers have done, the dispatcher can still return**: some continuation of
every schedule returns, so a move never deadlocks. The argument follows the progress, which every
continuation step raises and which is bounded. -/
theorem Inv.can_return {r : MoveRun} (h : r.Inv tc p gs) (hw : 0 < p.workers) :
    ∃ σ, (r.run tc σ).returned = true := by
  by_cases hr : r.returned = true
  · exact ⟨[], hr⟩
  · obtain ⟨a, ha⟩ := h.exists_progress (by simpa using hr) hw
    obtain ⟨σ, hσ⟩ := (h.step a).can_return hw
    exact ⟨a :: σ, hσ⟩
termination_by 7 * gs.length + 2 + p.total + p.lingering - r.progress tc
decreasing_by
  have := (h.step a).progress_le
  omega

end MoveRun

end CrowdSim
