import Mathlib
import CrowdSim.Proofs.TickShape

/-!
# Faulting moves

A member's move faults when its wayfinding tick breaks off, or when it would end in a NaN or
infinite position or velocity (`Pedestrian.moveFaults`). The checked move then puts position and
velocity back exactly as they were and reports the failure; everything else the step did stands,
the wayfinding model's progress included.

* `Pedestrian.moveChecked_eq`: the checked move in closed form, a faulting move with its position
  and velocity put back;
* `tick_fault_restores_motion`: in a tick that refuses no task, a member whose move faults keeps
  its position and velocity, every member ends the tick as its own checked move (so no member's
  fault reaches another), and the tick counts each faulting member once;
* `tick_fault_can_end_a_wait`: progress made before the fault is not undone: a member whose wait
  has run out and whose step then faults leaves the tick no longer waiting.
-/

namespace CrowdSim

namespace Pedestrian

variable (p : Pedestrian) (tc : TickContext) (view : GroupView)

/-- The move breaks off in its wayfinding tick, or ends in a NaN or infinite position or
velocity. -/
def moveFaults : Bool :=
  !(p.move tc view).2 || !(finite (p.move tc view).1.position && finite (p.move tc view).1.velocity)

/-- A move that breaks off keeps the wayfinding state it reached and nothing else. -/
theorem move_of_breaks_off (h : (p.move tc view).2 = false) :
    (p.move tc view).1 = { p with wayfinder := (p.wayfinder.desiredDirection (some tc.env)
      ⟨tc.now, p.position, p.velocity, p.normalSpeed⟩).2 } := by
  unfold move at h ⊢
  generalize p.wayfinder.desiredDirection (some tc.env) _ = d at h ⊢
  obtain ⟨_ | dir, m⟩ := d
  · rfl
  -- a direction was found: both outcomes of the integration report success
  · simp only at h
    split at h <;> simp at h

/-- **The checked move in closed form.** A faulting move puts position and velocity back and
keeps the rest of the step; any other move is the plain move. -/
theorem moveChecked_eq :
    p.moveChecked tc view =
      if p.moveFaults tc view then
        ({ (p.move tc view).1 with position := p.position, velocity := p.velocity }, false)
      else ((p.move tc view).1, true) := by
  unfold moveChecked moveFaults
  rcases hm : p.move tc view with ⟨q, _ | _⟩
  · have hq := move_of_breaks_off p tc view (by rw [hm])
    rw [hm] at hq
    subst hq
    simp
  · by_cases hf : finite q.position && finite q.velocity <;> simp [hf]

/-- The checked move reports success exactly when the move does not fault. -/
@[simp] theorem moveChecked_snd : (p.moveChecked tc view).2 = !p.moveFaults tc view := by
  rw [moveChecked_eq]
  split <;> simp [*]

/-- A faulting move leaves position and velocity as they were. -/
theorem moveChecked_of_faults (h : p.moveFaults tc view = true) :
    (p.moveChecked tc view).1 =
      { (p.move tc view).1 with position := p.position, velocity := p.velocity } := by
  rw [moveChecked_eq, if_pos h]

end Pedestrian

/-- A group's move counts as failed exactly the members whose move faults. -/
theorem Group.move_faults (g : Group) (tc : TickContext) :
    (g.move tc).2.2 = g.members.zipIdx.countP fun pi => pi.1.moveFaults tc (g.viewAt pi.2) := by
  rw [Group.move_eq]
  simp [Group.memberMove]

/-- **Faults restore motion and are counted once.** In a tick that refuses no task, every member
ends the tick as its own checked move from the group it started in; a member whose move faults
ends with the position and velocity it had, the rest of its step kept; and the tick's fault
count is the number of faulting members. -/
theorem tick_fault_restores_motion (s : Simulation) (now dt : Float)
    (h : PoolState.acceptsAll s.pool) :
    let tc := s.context now dt
    let r := s.tick now dt
    (∀ (j k i : Nat) (c : Crowd) (g : Group) (p : Pedestrian), s.crowds[j]? = some c →
      c.groups[k]? = some g → g.members[i]? = some p →
      r.1.member j k i = some (p.moveChecked tc (g.viewAt i)).1 ∧
      (p.moveFaults tc (g.viewAt i) = true → ∃ q, r.1.member j k i = some q ∧
        q.position = p.position ∧ q.velocity = p.velocity ∧
        q = { (p.move tc (g.viewAt i)).1 with position := p.position, velocity := p.velocity })) ∧
    r.2.faults = (s.crowds.map fun c => (c.groups.map fun g =>
      g.members.zipIdx.countP fun pi => pi.1.moveFaults tc (g.viewAt pi.2)).sum).sum := by
  intro tc r
  refine ⟨fun j k i c g p hc hg hp => ?_, ?_⟩
  · have hmember : r.1.member j k i = some (p.moveChecked tc (g.viewAt i)).1 := by
      simp [r, Simulation.tick_member s now dt h hc hg, hp, tc]
    refine ⟨hmember, fun hf => ⟨_, hmember, ?_, ?_, ?_⟩⟩ <;>
      simp [Pedestrian.moveChecked_of_faults p tc _ hf]
  · simp [r, Simulation.tick_eq s now dt h, Crowd.faultCount, Group.move_faults, tc]

/-- A simulation of one pedestrian at rest at the origin, moved by the explicit Euler scheme and
waiting, until time zero, at the only waypoint of its route. -/
def waitingAtOrigin : Simulation :=
  let f : RouteFollower := { RouteFollower.init 1 default with
    route := some ⟨1, [default], true⟩, inert := false, dest := some 0, waiting := true }
  { (default : Simulation) with
    engine := ⟨default, .euler, 0⟩
    crowds :=
      [⟨1, [⟨1, [{ (default : Pedestrian) with wayfinder := .route f }], Vec.zero⟩], none⟩] }

/-- A pair walking together: the first member's velocity is NaN, the second walks at one metre
per second five metres ahead of it. -/
def nanVelocityPair : Group :=
  ⟨1, [{ (default : Pedestrian) with id := 1, velocity := ⟨0.0 / 0.0, 0.0⟩, maxSpeed := 2.0 },
    { (default : Pedestrian) with
      id := 2, position := ⟨5.0, 0.0⟩, velocity := ⟨1.0, 0.0⟩, maxSpeed := 2.0 }], Vec.zero⟩

/-- The pair under the default force parameters with no pedestrian or boundary reach, moved by
the explicit Euler scheme. -/
def nanVelocityPairSim : Simulation :=
  { (default : Simulation) with
    engine := ⟨⟨ForceParams.default, 0.0, 0.0⟩, .euler, 0⟩
    crowds := [⟨1, [nanVelocityPair], none⟩] }

/-- In a tick of a tenth of a second the member with a NaN velocity faults, is counted once and
keeps its position and velocity, while its mate ends the tick as its own plain move, ten
centimetres further on. -/
theorem tick_fault_restores_motion_beside_a_steady_mate :
    let s := nanVelocityPairSim
    let r := s.tick 0.0 0.1
    PoolState.acceptsAll s.pool ∧ r.2.faults = 1 ∧
      (∃ p q, nanVelocityPair.members[0]? = some p ∧ r.1.member 0 0 0 = some q ∧
        q.position = p.position ∧ q.velocity = p.velocity) ∧
      (∃ p q, nanVelocityPair.members[1]? = some p ∧ r.1.member 0 0 1 = some q ∧
        q = (p.move (s.context 0.0 0.1) (nanVelocityPair.viewAt 1)).1 ∧ (q.position.x == 5.1) = true) := by
  intro s r
  have h : PoolState.acceptsAll s.pool := by
    intro ps hps
    cases hps
  obtain ⟨hm, hcount⟩ := tick_fault_restores_motion s 0.0 0.1 h
  have hc : s.crowds[0]? = some ⟨1, [nanVelocityPair], none⟩ := rfl
  refine ⟨h, ?_, ?_, ?_⟩
  · rw [hcount]
    decide +kernel
  · obtain ⟨q, hq, hpos, hvel, -⟩ := (hm 0 0 0 _ _ _ hc rfl rfl).2 (by decide +kernel)
    exact ⟨_, q, rfl, hq, hpos, hvel⟩
  -- the mate's move does not fault, so its checked move is the plain one
  · have hq := (hm 0 0 1 _ _ _ hc rfl rfl).1
    rw [Pedestrian.moveChecked_eq, if_neg (by decide +kernel)] at hq
    exact ⟨_, _, rfl, hq, rfl, by decide +kernel⟩

/-- The waiting flag of a route follower; none for another model. -/
def Wayfinder.waiting? : Wayfinder → Option Bool
  | .route f => some f.waiting
  | _ => Option.none

/-- A faulting move does not undo the end of a wait: the tick of NaN length faults the member of
`waitingAtOrigin`, whose wait has run out, and it leaves the tick no longer waiting. -/
theorem tick_fault_can_end_a_wait :
    let r := waitingAtOrigin.tick 0.0 (0.0 / 0.0)
    r.2.faults = 1 ∧
      (waitingAtOrigin.member 0 0 0).bind (·.wayfinder.waiting?) = some true ∧
      (r.1.member 0 0 0).bind (·.wayfinder.waiting?) = some false := by
  decide

end CrowdSim
