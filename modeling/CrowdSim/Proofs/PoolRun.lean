import Mathlib
import CrowdSim.Proofs.PoolBarrier

/-!
# A crowd's move on the worker pool, and the pool over a run

`Crowd.moveOn` is a crowd's move with its groups as tasks on the pool's workers, under a
schedule (`MoveRun`); a crowd without groups returns at once, with no barrier. When the
dispatcher returns, the move is the sequential `Crowd.move` of the same crowd on the pool as the
sequential tick sees it (`PoolCounters.view`), whenever the pool is closed or its queue holds all
the crowd's groups (`Crowd.moveOn_refines`): every schedule of the workers gives the crowd, the
counts and the pool the sequential move gives. On an open pool whose queue is shorter than the
crowd, the groups refused depend on the schedule, while the sequential move refuses none: the
refinement is not claimed there.

Over a run of moves and closes (`PoolCounters.runOn`), the pool's counters keep count of every
task: its refusals are the groups skipped, its tasks run (with those whose worker is still
leaving) are the groups accepted, and once the pool is closed no worker is active
(`PoolCounters.runOn_counts`).
-/

namespace CrowdSim

/-- The pool as the sequential tick sees it: closed or not, the tasks run, counting those whose
worker is still leaving, and the tasks refused. -/
def PoolCounters.view (p : PoolCounters) : PoolState := ⟨p.closed, p.total + p.lingering, p.rejected⟩

namespace Crowd

/-- A crowd's move with its groups as tasks on the pool, under the schedule `σ`: none while the
dispatcher waits. A crowd without groups returns at once. -/
def moveOn (c : Crowd) (tc : TickContext) (p : PoolCounters) (σ : List MoveAction) :
    Option (Crowd × PoolCounters × MoveStats) :=
  if c.groups.isEmpty then some (c, p, ⟨0, 0, 0⟩)
  else
    let r := (MoveRun.init p c.groups).run tc σ
    if r.returned then
      some ({ c with groups := r.tasks.map (·.group) }, r.poolAfter, ⟨r.moved, r.skipped, r.faults⟩)
    else none

/-- The group loop of a crowd's move on a closed pool: every group is skipped and refused. -/
theorem foldl_step_of_closed (tc : TickContext) (l done : List Group) (ps : PoolState)
    (st : MoveStats) (h : ps.closed = true) :
    l.foldl (move.step tc) (done, some ps, st) =
      (done ++ l, some { ps with rejected := ps.rejected + l.length },
        { st with skipped := st.skipped + l.length }) := by
  induction l generalizing done ps st with
  | nil => simp
  | cons g l ih =>
    rw [List.foldl_cons]
    simp only [move.step]
    rw [if_pos h, ih _ { ps with rejected := ps.rejected + 1 } _ h]
    simp [Nat.add_assoc, Nat.add_comm 1]

/-- **A crowd's move on a closed pool**: nothing moves, and every group is skipped. -/
theorem move_of_closed (c : Crowd) (tc : TickContext) (ps : PoolState) (h : ps.closed = true) :
    c.move tc (some ps) =
      (c, some { ps with rejected := ps.rejected + c.groups.length }, ⟨0, c.groups.length, 0⟩) := by
  unfold Crowd.move
  rw [foldl_step_of_closed tc c.groups [] ps ⟨0, 0, 0⟩ h]
  simp

end Crowd

namespace MoveRun

variable {tc : TickContext} {p : PoolCounters} {gs : List Group} {r : MoveRun}

/-- The groups of the tasks, when every task stands on the same side of its group's move. -/
theorem Inv.map_group (h : r.Inv tc p gs) (b : Bool) (hb : ∀ t ∈ r.tasks, t.phase.hasMoved = b) :
    r.tasks.map (·.group) = gs.map fun g => if b then (g.move tc).1 else g := by
  rw [← h.starts, List.map_map]
  apply List.map_congr_left
  intro t ht
  rw [h.groups t ht, hb t ht]
  rfl

/-- **A move on a closed pool, at return**: every task was refused, so the groups stand as they
were, nothing is counted moved, every group is skipped, and the pool counts the refusals. -/
theorem Inv.returned_closed (h : r.Inv tc p gs) (hr : r.returned = true) (hc : p.closed = true) :
    r.tasks.map (·.group) = gs ∧ r.moved = 0 ∧ r.faults = 0 ∧ r.skipped = gs.length ∧
      r.poolAfter.view = { p.view with rejected := p.view.rejected + gs.length } := by
  obtain ⟨-, -, hend⟩ := h.returned_all_ended hr
  have hfl := h.closedRefuses hc
  -- no task is finished or left, so each one was refused
  have hrefused : ∀ t ∈ r.tasks, t.phase = .refused := by
    intro t ht
    rcases hend t ht with hp | hp | hp
    · exact hp
    · have : (tallyOf tc r.tasks).count .finished = 0 := by simp only [Tally.count]; omega
      exact absurd hp (phase_ne_of_count_zero this t ht)
    · have : (tallyOf tc r.tasks).count .left = 0 := by simp only [Tally.count]; omega
      exact absurd hp (phase_ne_of_count_zero this t ht)
  have hnone : r.tasks.filter (·.phase.hasMoved) = [] := by
    rw [List.filter_eq_nil_iff]
    intro t ht
    simp [hrefused t ht, Phase.hasMoved]
  obtain ⟨hskip, -, -, hall, -⟩ := h.returned_counts hr
  obtain ⟨hcl, -, -, -, htot, hrej⟩ := h.returned_pool hr
  have hskip' := hall hc
  refine ⟨?_, ?_, ?_, hskip', ?_⟩
  · rw [h.map_group false fun t ht => by simp [hrefused t ht, Phase.hasMoved]]
    simp
  · rw [h.moved, tallyOf_membersMoved, hnone]
    rfl
  · rw [h.faults, tallyOf_membersFaulted, hnone]
    rfl
  · simp only [PoolCounters.view, hcl, hrej, hskip']
    congr 1
    omega

/-- **A move on an open pool whose queue holds all the groups, at return**: no task was refused,
so every group has moved, the crowd counts the groups' moves, nothing is skipped, and the pool
counts one task run per group. -/
theorem Inv.returned_open (h : r.Inv tc p gs) (hr : r.returned = true) (ho : p.closed = false)
    (hcap : gs.length ≤ p.capacity) :
    r.tasks.map (·.group) = gs.map (fun g => (g.move tc).1) ∧
      r.moved = (gs.map fun g => (g.move tc).2.1).sum ∧
      r.faults = (gs.map fun g => (g.move tc).2.2).sum ∧ r.skipped = 0 ∧
      r.poolAfter.view = { p.view with total := p.view.total + gs.length } := by
  obtain ⟨-, -, hend⟩ := h.returned_all_ended hr
  obtain ⟨-, -, -, -, hnone⟩ := h.returned_counts hr
  have hskip := hnone ho hcap
  have hzero : (tallyOf tc r.tasks).count .refused = 0 := by
    simp only [Tally.count]
    rw [← h.skipped, hskip]
  -- no task was refused, so each one has moved its group
  have hmoved : ∀ t ∈ r.tasks, t.phase.hasMoved = true := by
    intro t ht
    rcases hend t ht with hp | hp | hp
    · exact absurd hp (phase_ne_of_count_zero hzero t ht)
    all_goals simp [hp, Phase.hasMoved]
  have hall : r.tasks.filter (·.phase.hasMoved) = r.tasks := List.filter_eq_self.mpr hmoved
  obtain ⟨hcl, -, -, -, htot, hrej⟩ := h.returned_pool hr
  refine ⟨?_, ?_, ?_, hskip, ?_⟩
  · rw [h.map_group true hmoved]
    simp
  · rw [h.moved, tallyOf_membersMoved, hall, ← h.starts, List.map_map]
    rfl
  · rw [h.faults, tallyOf_membersFaulted, hall, ← h.starts, List.map_map]
    rfl
  · simp only [PoolCounters.view, hcl, hrej, hskip]
    congr 1
    omega

end MoveRun

namespace Crowd

/-- What a move on the pool gives when it gives something: a crowd without groups unchanged on
the pool as it was, or the dispatcher's result once it has returned. -/
theorem moveOn_cases {c : Crowd} {tc : TickContext} {p : PoolCounters} {σ : List MoveAction}
    {c' : Crowd} {p' : PoolCounters} {st : MoveStats} (h : c.moveOn tc p σ = some (c', p', st)) :
    (c.groups = [] ∧ c' = c ∧ p' = p ∧ st = ⟨0, 0, 0⟩) ∨
      (((MoveRun.init p c.groups).run tc σ).returned = true ∧
        c' = { c with groups := ((MoveRun.init p c.groups).run tc σ).tasks.map (·.group) } ∧
        p' = ((MoveRun.init p c.groups).run tc σ).poolAfter ∧
        st = ⟨((MoveRun.init p c.groups).run tc σ).moved,
          ((MoveRun.init p c.groups).run tc σ).skipped,
          ((MoveRun.init p c.groups).run tc σ).faults⟩) := by
  unfold moveOn at h
  split at h
  · next hempty =>
    simp only [Option.some.injEq, Prod.mk.injEq] at h
    obtain ⟨rfl, rfl, rfl⟩ := h
    exact .inl ⟨List.isEmpty_iff.mp hempty, rfl, rfl, rfl⟩
  · dsimp only at h
    split at h
    · next hr =>
      simp only [Option.some.injEq, Prod.mk.injEq] at h
      obtain ⟨rfl, rfl, rfl⟩ := h
      exact .inr ⟨hr, rfl, rfl, rfl⟩
    · cases h

/-- **Every schedule of the workers gives the sequential move.** When a crowd's dispatcher
returns, on a pool at rest whose queue holds all the crowd's groups or that is closed, the crowd,
its counts and the pool are those of `Crowd.move` on the pool as the sequential tick sees it; the
pool is at rest again, with its configuration unchanged. -/
theorem moveOn_refines (c : Crowd) (tc : TickContext) (p : PoolCounters) (σ : List MoveAction)
    (hp : p.active = p.lingering) (hpol : p.closed = true ∨ c.groups.length ≤ p.capacity)
    {c' : Crowd} {p' : PoolCounters} {st : MoveStats} (h : c.moveOn tc p σ = some (c', p', st)) :
    c.move tc (some p.view) = (c', some p'.view, st) ∧ p'.active = p'.lingering ∧
      p'.closed = p.closed ∧ p'.capacity = p.capacity ∧ p'.workers = p.workers := by
  rcases moveOn_cases h with ⟨hempty, hc, hp', hst⟩ | ⟨hr, rfl, rfl, rfl⟩
  · -- no groups: no barrier, and the sequential move changes nothing either
    subst c' p' st
    refine ⟨?_, hp, rfl, rfl, rfl⟩
    obtain ⟨id, groups, route⟩ := c
    obtain rfl : groups = [] := hempty
    rfl
  · have hinv := (MoveRun.init_inv tc hp c.groups).run σ
    obtain ⟨hcl, hcap, hwk, hact, -, -⟩ := hinv.returned_pool hr
    refine ⟨?_, hact, hcl, hcap, hwk⟩
    cases hc : p.closed
    · have hn := hpol.resolve_left (by simp [hc])
      obtain ⟨hg, hm, hf, hs, hview⟩ := hinv.returned_open hr hc hn
      have hacc : PoolState.acceptsAll (some p.view) := fun ps hps => by
        cases hps
        exact hc
      rw [move_of_acceptsAll c tc _ hacc, hview, hg, hm, hf, hs]
      rfl
    · obtain ⟨hg, hm, hf, hs, hview⟩ := hinv.returned_closed hr hc
      rw [move_of_closed c tc _ hc, hview, hg, hm, hf, hs]

/-- **The pool after a crowd's move**, on a pool at rest and whatever the schedule: at rest
again, with its configuration unchanged; its tasks run, with those whose worker is still leaving,
grew by the groups accepted and its refusals by the groups skipped; and a closed pool gained no
worker still leaving a task. -/
theorem moveOn_pool (c : Crowd) (tc : TickContext) (p : PoolCounters) (σ : List MoveAction)
    (hp : p.active = p.lingering) {c' : Crowd} {p' : PoolCounters} {st : MoveStats}
    (h : c.moveOn tc p σ = some (c', p', st)) :
    p'.active = p'.lingering ∧ p'.closed = p.closed ∧
      p'.total + p'.lingering = p.total + p.lingering + (c.groups.length - st.skipped) ∧
      p'.rejected = p.rejected + st.skipped ∧ (p.closed = true → p'.lingering ≤ p.lingering) := by
  rcases moveOn_cases h with ⟨hempty, hc, hp', hst⟩ | ⟨hr, rfl, rfl, rfl⟩
  · subst c' p' st
    exact ⟨hp, rfl, by simp [hempty], rfl, fun _ => le_rfl⟩
  · have hinv := (MoveRun.init_inv tc hp c.groups).run σ
    obtain ⟨hcl, -, -, hact, htot, hrej⟩ := hinv.returned_pool hr
    refine ⟨hact, hcl, htot, hrej, fun hc => ?_⟩
    -- on a closed pool no task finished, and workers only ever leave earlier tasks
    have hfin := tallyOf_count tc ((MoveRun.init p c.groups).run tc σ).tasks .finished
    have hnone := hinv.closedRefuses hc
    have hlg := hinv.lingering
    simp only [Tally.count] at hfin
    simp only [MoveRun.poolAfter]
    omega

end Crowd

/-! ## The pool over a run -/

/-- What happens to the pool: a crowd's move under a schedule of its workers, or closing it. -/
inductive PoolEvent where
  | move (c : Crowd) (tc : TickContext) (σ : List MoveAction)
  | close

namespace PoolCounters

/-- Closing the pool: it refuses every later task, and waits for its workers, so those still
leaving a task leave it. -/
def close (p : PoolCounters) : PoolCounters :=
  { p with closed := true, active := p.active - p.lingering, total := p.total + p.lingering,
           lingering := 0 }

/-- The pool after a run, with the count of tasks it accepted and refused added to `accepted`
and `refused`: none while a dispatcher waits. -/
def runOn (p : PoolCounters) (accepted refused : Nat) :
    List PoolEvent → Option (PoolCounters × Nat × Nat)
  | [] => some (p, accepted, refused)
  | .close :: es => p.close.runOn accepted refused es
  | .move c tc σ :: es =>
    match c.moveOn tc p σ with
    | none => none
    | some (_, p', st) =>
      p'.runOn (accepted + (c.groups.length - st.skipped)) (refused + st.skipped) es

/-- **The pool's counters keep count of every task over a run.** From a pool at rest (closed
only with no worker still leaving a task), after any run of moves and closes in which every
dispatcher returns, the pool is at rest; its tasks run, with those whose worker is still leaving,
grew by the tasks accepted and its refusals by the tasks refused; and once it is closed, no
worker is active or still leaving a task. -/
theorem runOn_counts (es : List PoolEvent) :
    ∀ (p : PoolCounters) (a f : Nat), p.active = p.lingering → (p.closed = true → p.lingering = 0) →
      ∀ {q : PoolCounters} {a' f' : Nat}, p.runOn a f es = some (q, a', f') →
        q.active = q.lingering ∧ q.total + q.lingering + a = p.total + p.lingering + a' ∧
          q.rejected + f = p.rejected + f' ∧ (q.closed = true → q.active = 0 ∧ q.lingering = 0) := by
  induction es with
  | nil =>
    intro p a f hp hc q a' f' h
    simp only [runOn, Option.some.injEq, Prod.mk.injEq] at h
    obtain ⟨rfl, rfl, rfl⟩ := h
    exact ⟨hp, rfl, rfl, fun hq => ⟨by rw [hp, hc hq], hc hq⟩⟩
  | cons e es ih =>
    intro p a f hp hc q a' f' h
    cases e with
    | close =>
      -- the workers still leaving a task leave it as the pool closes
      obtain ⟨h1, h2, h3, h4⟩ :=
        ih p.close a f (by simp [close, hp]) (fun _ => rfl) h
      refine ⟨h1, ?_, h3, h4⟩
      simp only [close] at h2
      omega
    | move c tc σ =>
      simp only [runOn] at h
      split at h
      · cases h
      · next c' p' st hm =>
        obtain ⟨hact, hcl, htot, hrej, hling⟩ := c.moveOn_pool tc p σ hp hm
        obtain ⟨h1, h2, h3, h4⟩ := ih p' _ _ hact
          (fun hc' => by have := hling (hcl ▸ hc'); have := hc (hcl ▸ hc'); omega) h
        exact ⟨h1, by omega, by omega, h4⟩

end PoolCounters

/-! ## The barrier and the pool's counters -/

/-- **The barrier waits for every accepted task, and the pool counts every task.** Take a crowd's
move on a pool at rest, under any schedule `σ` of the dispatcher and the workers.

* The barrier's channel is closed at most once, and while the pool has a worker, some
  continuation of the schedule lets the dispatcher return.
* When the dispatcher returns, the channel has been closed exactly once and every task the pool
  accepted has ended; the crowd skipped exactly the refused groups, counted the members of the
  other groups as moved or faulted, skipped every group if the pool was closed, and none if it was
  open with a queue that holds all the groups.
* The crowd's move is then the sequential `Crowd.move` on the pool as the sequential tick sees
  it, whenever the pool is closed or its queue holds all the groups.
* Over any run of moves and closes from this pool in which every dispatcher returns, the pool
  stays at rest, its refusals count the refused tasks and its tasks run, with those whose worker is
  still leaving, the accepted ones; once closed, no worker is active and its tasks run are exactly
  the accepted ones. -/
theorem pool_barrier_waits_for_every_task (tc : TickContext) (p : PoolCounters)
    (hp : p.active = p.lingering) (c : Crowd) (σ : List MoveAction) :
    let r := (MoveRun.init p c.groups).run tc σ
    (r.closes ≤ 1 ∧
      (0 < p.workers → ∃ σ', ((MoveRun.init p c.groups).run tc (σ ++ σ')).returned = true)) ∧
    (r.returned = true →
      r.closes = 1 ∧ (∀ t ∈ r.tasks, t.phase = .refused ∨ t.phase = .finished ∨ t.phase = .left) ∧
      r.skipped = r.tasks.countP (·.phase = .refused) ∧
      r.moved + r.faults =
        ((r.tasks.filter (·.phase ≠ .refused)).map (·.start.members.length)).sum ∧
      (p.closed = true → r.skipped = c.groups.length) ∧
      (p.closed = false → c.groups.length ≤ p.capacity → r.skipped = 0)) ∧
    (∀ {c' : Crowd} {p' : PoolCounters} {st : MoveStats}, c.moveOn tc p σ = some (c', p', st) →
      p.closed = true ∨ c.groups.length ≤ p.capacity →
      c.move tc (some p.view) = (c', some p'.view, st)) ∧
    (∀ (es : List PoolEvent) {q : PoolCounters} {a f : Nat}, (p.closed = true → p.lingering = 0) →
      p.runOn 0 0 es = some (q, a, f) →
      q.rejected = p.rejected + f ∧ q.total + q.lingering = p.total + p.lingering + a ∧
        q.active = q.lingering ∧ (q.closed = true → q.active = 0 ∧ q.total = p.total + p.lingering + a)) := by
  intro r
  have hinv : r.Inv tc p c.groups := (MoveRun.init_inv tc hp c.groups).run σ
  refine ⟨⟨hinv.closes_le_one, fun hw => ?_⟩, fun hr => ?_, ?_, ?_⟩
  · -- a continuation from where the schedule left the move
    obtain ⟨σ', hσ'⟩ := hinv.can_return hw
    refine ⟨σ', ?_⟩
    rw [MoveRun.run, List.foldl_append]
    exact hσ'
  · obtain ⟨hcl, -, hend⟩ := hinv.returned_all_ended hr
    obtain ⟨hskip, -, hmembers, hclosed, hopen⟩ := hinv.returned_counts hr
    exact ⟨hcl, hend, hskip, hmembers, hclosed, hopen⟩
  · intro c' p' st hm hpol
    exact (c.moveOn_refines tc p σ hp hpol hm).1
  · intro es q a f hc hrun
    obtain ⟨hact, htot, hrej, hclosed⟩ := p.runOn_counts es 0 0 hp hc hrun
    refine ⟨by omega, by omega, hact, fun hq => ⟨(hclosed hq).1, ?_⟩⟩
    have := (hclosed hq).2
    omega

/-- A crowd of three groups of one pedestrian on an open pool of one worker whose queue holds one
task. The dispatcher queues the first group and is refused the second while the first still
waits; the worker takes the first, the third is queued, and once the worker has left the first
it runs the third. The dispatcher returns with the channel closed once, the second group skipped
and counted as the pool's one refusal, and the members of the other two counted. -/
theorem pool_barrier_waits_for_every_task_past_a_refusal :
    let tc := (default : Simulation).context 0.0 0.1
    let p : PoolCounters := ⟨false, 1, 1, 0, 0, 0, 0⟩
    let c : Crowd := ⟨1, [⟨1, [default], Vec.zero⟩, ⟨2, [default], Vec.zero⟩,
      ⟨3, [default], Vec.zero⟩], none⟩
    let σ : List MoveAction := [.offer, .offer, .start 0, .offer, .release, .body 0, .finish 0,
      .leave 0, .start 2, .body 2, .finish 2, .wake]
    let r := (MoveRun.init p c.groups).run tc σ
    p.active = p.lingering ∧ r.returned = true ∧
      r.tasks.map (·.phase) = [.left, .refused, .finished] ∧ r.closes = 1 ∧ r.skipped = 1 ∧
      r.moved + r.faults = 2 ∧ r.pool.rejected = 1 := by
  intro tc p c σ r
  have hr : r.returned = true := by decide +kernel
  obtain ⟨hcl, -, hskip, hmembers, -, -⟩ :=
    (pool_barrier_waits_for_every_task tc p rfl c σ).2.1 hr
  refine ⟨rfl, hr, by decide +kernel, hcl, ?_, ?_, by decide +kernel⟩
  · rw [hskip]
    decide +kernel
  · rw [hmembers]
    decide +kernel

end CrowdSim
