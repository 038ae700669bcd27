import Mathlib
import CrowdSim.Motion.Body
import CrowdSim.Proofs.FloatOrder

/-!
# The calls of one step

A scheme moves a body only through its calls, and their order is part of the contract between
the two: a waypoint is passed only if the wayfinding model hears of each committed move once, with
the displacement that is committed. This module reads the order off `Scheme.move` for every body,
whatever its calls do to its state, and carries it over to pedestrians.

* `Scheme.transcript_of_le`, `Scheme.transcript_of_not_le`: a step that is not positive makes no
  call; any other step, a NaN one included, reads the position, the velocity and the force once,
  evaluates the force at the scheme's interior stage states (`Scheme.StageCalls`), and ends with
  one report and one commit of the same position;
* `Scheme.move_ofReads`: on a body whose reads change nothing, the step is `Scheme.advance`
  followed by the report and the commit;
* `Pedestrian.move_eq_body`, `Pedestrian.move_reports_displacement`: a pedestrian's move is the
  step on its body, so its wayfinding model is told the displacement from where the pedestrian
  stood to where it ends the move, or nothing when no step is taken;
* `step_reports_what_it_commits`: all of it together, with the commit's speed cap touching only
  the velocity.
-/

namespace CrowdSim

/-- A double that is above another, or is NaN, is not at most the other. -/
theorem float_not_le_of_lt_or_isNaN {a b : Float} (h : b < a ∨ a.isNaN = true) : ¬ a ≤ b := by
  intro hle
  rcases h with hlt | hnan
  · exact float_not_le_of_lt hlt hle
  -- a comparison that holds is between numbers
  · rw [(float_isNaN_of_le hle).1] at hnan
    cases hnan

namespace Scheme

variable {σ : Type}

/-- The force evaluations a step of `dt` from `pos` and `vel` under the tick's force `f` makes,
with the answers they got: none for the Euler schemes; for Runge–Kutta three, each at the start
state moved along the slope of the stage before it (the start's velocity and force, then each
trial state's velocity and the force found there) by half a step, half a step and a whole step. -/
def StageCalls : Scheme → Vec → Vec → Vec → Float → List Call → Prop
  | .euler, _, _, _, _, calls => calls = []
  | .semiImplicitEuler, _, _, _, _, calls => calls = []
  | .rungeKutta, pos, vel, f, dt, calls => ∃ a2 a3 a4,
      let s2 := trial pos vel (vel, f) (dt / 2.0)
      let s3 := trial pos vel (s2.2, a2) (dt / 2.0)
      let s4 := trial pos vel (s3.2, a3) dt
      calls = [.forceAt s2.1 s2.2 a2, .forceAt s3.1 s3.2 a3, .forceAt s4.1 s4.2 a4]

/-- A step that is not positive does nothing. -/
theorem move_of_le (sch : Scheme) (b : Body σ) {dt : Float} (h : dt ≤ 0.0) :
    sch.move b dt = pure () :=
  if_pos h

theorem transcript_of_le (sch : Scheme) (b : Body σ) (s : σ) {dt : Float} (h : dt ≤ 0.0) :
    sch.transcript b s dt = [] := by
  rw [transcript, move_of_le sch _ h]
  rfl

/-- **The calls of a step that moves.** It reads the position `p0`, the velocity and the force,
evaluates the force at the interior stage states, and ends with the report of the displacement
from `p0` to `p1` and the commit of `p1`. Each read's answer is whatever `b` gives in the state the
call before left, so the body may change its state on any call. -/
theorem transcript_of_not_le (sch : Scheme) (b : Body σ) (s : σ) {dt : Float} (h : ¬ dt ≤ 0.0) :
    ∃ p0 v0 f calls p1 v1, sch.StageCalls p0 v0 f dt calls ∧
      sch.transcript b s dt =
        [Call.position p0, Call.velocity v0, Call.force f] ++ calls ++
          [Call.updateSegment p0 p1, Call.commit p1 v1] := by
  unfold transcript move
  rw [if_neg h]
  -- each call of the recorded body appends one entry to the transcript
  cases sch with
  | euler =>
    simp only [Body.recorded, Body.commitFrom, Body.record_bind_run, Body.record_run]
    exact ⟨_, _, _, _, _, _, rfl, rfl⟩
  | semiImplicitEuler =>
    simp only [Body.recorded, Body.commitFrom, Body.record_bind_run, Body.record_run]
    exact ⟨_, _, _, _, _, _, rfl, rfl⟩
  | rungeKutta =>
    simp only [Body.recorded, Body.commitFrom, Body.record_bind_run, Body.record_run]
    exact ⟨_, _, _, _, _, _, ⟨_, _, _, rfl⟩, rfl⟩

/-- A step gives no result exactly when it is not positive. -/
theorem advance_eq_none_iff (sch : Scheme) (force : Vec) (forceAt : Vec → Vec → Vec)
    (pos vel : Vec) (dt : Float) : sch.advance force forceAt pos vel dt = none ↔ dt ≤ 0.0 := by
  unfold advance
  split_ifs with h
  · simp [h]
  · cases sch <;> simp [h]

/-- **A step on a body whose reads change nothing** is `advance` on what the body reads, the
force at a trial state read in the body's state, followed by the report and the commit. -/
theorem move_ofReads (sch : Scheme) (P V F : σ → Vec) (G : σ → Vec → Vec → Vec)
    (U C : σ → Vec → Vec → σ) (s : σ) (dt : Float) :
    ((sch.move (Body.ofReads P V F G U C) dt).run s).2 =
      match sch.advance (F s) (G s) (P s) (V s) dt with
      | none => s
      | some a => C (U s (P s) a.position) a.position a.velocity := by
  unfold move advance
  split_ifs
  · rfl
  · cases sch <;> rfl

end Scheme

namespace Pedestrian

/-- A commit stores the position as given: the speed cap changes only the velocity. -/
theorem commit_keeps_position (p : Pedestrian) (pos vel : Vec) :
    p.commit pos vel = { p with position := pos, velocity := (p.commit pos vel).velocity } :=
  rfl

/-- **A pedestrian's move is the scheme's step on its body**, run from the pedestrian with the
direction, wayfinding state and forces of the tick. -/
theorem move_eq_body (p : Pedestrian) (tc : TickContext) (view : GroupView) :
    p.move tc view =
      match p.wayfinder.desiredDirection (some tc.env)
          ⟨tc.now, p.position, p.velocity, p.normalSpeed⟩ with
      | (.error _, m) => ({ p with wayfinder := m }, false)
      | (.ok dir, m) =>
        let q := { p with direction := dir, wayfinder := m }
        let q := { q with
          forces := tc.model.compute (q.subject view q.position q.velocity) (some tc.env) }
        (((tc.scheme.move (body tc view) tc.dt).run q).2, true) := by
  unfold move
  rcases p.wayfinder.desiredDirection (some tc.env) _ with ⟨_ | dir, m⟩
  · rfl
  -- both sides take the same step, the left through `advance` and the right through the calls
  · unfold Scheme.advance Scheme.move
    split_ifs
    · rfl
    · cases tc.scheme <;> rfl

/-- **The wayfinding model hears the committed displacement.** After a move that runs to the end
with a step that is positive or NaN, the wayfinding model is the one the direction left, told the
displacement from the pedestrian's position to the position the move ends at; after any other
move it is told nothing. -/
theorem move_reports_displacement (p : Pedestrian) (tc : TickContext) (view : GroupView) :
    let m := (p.wayfinder.desiredDirection (some tc.env)
      ⟨tc.now, p.position, p.velocity, p.normalSpeed⟩).2
    (p.move tc view).1.wayfinder =
      if (p.move tc view).2 = true ∧ ¬ tc.dt ≤ 0.0 then
        m.updateSegment p.position (p.move tc view).1.position
      else m := by
  intro m
  rw [move_eq_body]
  generalize hd : p.wayfinder.desiredDirection (some tc.env) _ = d at m ⊢
  obtain ⟨_ | dir, m'⟩ := d
  · simp [m, hd]
  · simp only [body, Scheme.move_ofReads]
    split
    · rename_i h
      simp [(Scheme.advance_eq_none_iff ..).1 h, m, hd]
    · rename_i a h
      have hdt : ¬ tc.dt ≤ 0.0 := fun hle => by
        rw [(Scheme.advance_eq_none_iff ..).2 hle] at h
        cases h
      simp [hdt, m, hd, commit]

end Pedestrian

/-- **A step reports what it commits, once and last.** For every scheme, every body and every
step: a step that is not positive makes no call and leaves the body as it was; a positive or NaN
step reads the position `p0`, the velocity and the force once each, evaluates the force at the
scheme's interior stage states (three for Runge–Kutta, none for the Euler schemes), and then, as
its last calls, reports the displacement from `p0` to `p1` once and commits `p1` once. So in a
pedestrian's move the wayfinding model is told exactly the displacement from the pedestrian's
position to the position the move ends at, and a commit stores the position as given, its speed
cap changing only the velocity. -/
theorem step_reports_what_it_commits :
    (∀ (sch : Scheme) {σ : Type} (b : Body σ) (s : σ) (dt : Float),
      (dt ≤ 0.0 → sch.transcript b s dt = [] ∧ ((sch.move b dt).run s).2 = s) ∧
      (0.0 < dt ∨ dt.isNaN = true → ∃ p0 v0 f calls p1 v1, sch.StageCalls p0 v0 f dt calls ∧
        sch.transcript b s dt =
          [Call.position p0, Call.velocity v0, Call.force f] ++ calls ++
            [Call.updateSegment p0 p1, Call.commit p1 v1])) ∧
    (∀ (p : Pedestrian) (tc : TickContext) (view : GroupView),
      let m := (p.wayfinder.desiredDirection (some tc.env)
        ⟨tc.now, p.position, p.velocity, p.normalSpeed⟩).2
      (p.move tc view).1.wayfinder =
        if (p.move tc view).2 = true ∧ ¬ tc.dt ≤ 0.0 then
          m.updateSegment p.position (p.move tc view).1.position
        else m) ∧
    (∀ (p : Pedestrian) (pos vel : Vec),
      p.commit pos vel = { p with position := pos, velocity := (p.commit pos vel).velocity }) := by
  refine ⟨?_, Pedestrian.move_reports_displacement, Pedestrian.commit_keeps_position⟩
  intro sch σ b s dt
  refine ⟨fun h => ⟨sch.transcript_of_le b s h, ?_⟩,
    fun h => sch.transcript_of_not_le b s (float_not_le_of_lt_or_isNaN h)⟩
  rw [sch.move_of_le b h]
  rfl

/-- A point mass on a spring, the force at a state being minus its position, that counts the
force evaluations made on it. -/
def springBody : Body ((Vec × Vec) × Nat) where
  position := fun s => (s.1.1, s)
  velocity := fun s => (s.1.2, s)
  force := fun s => (s.1.1.scale (-1.0), s)
  forceAt pos _ := fun s => (pos.scale (-1.0), (s.1, s.2 + 1))
  updateSegment _ _ := fun s => ((), s)
  commit pos vel := fun s => ((), ((pos, vel), s.2))

/-- A Runge–Kutta step of a tenth of a second on the spring, from rest one metre out, ends in one
report and one commit after three force evaluations; a step of zero makes no call. -/
theorem step_reports_what_it_commits_on_spring :
    ((0.0 : Float) ≤ 0.0 ∧
      Scheme.rungeKutta.transcript springBody ((⟨1.0, 0.0⟩, Vec.zero), 0) 0.0 = []) ∧
    ((0.0 < (0.1 : Float) ∨ (0.1 : Float).isNaN = true) ∧
      ∃ p0 v0 f calls p1 v1, Scheme.rungeKutta.StageCalls p0 v0 f 0.1 calls ∧
        Scheme.rungeKutta.transcript springBody ((⟨1.0, 0.0⟩, Vec.zero), 0) 0.1 =
          [Call.position p0, Call.velocity v0, Call.force f] ++ calls ++
            [Call.updateSegment p0 p1, Call.commit p1 v1]) := by
  have hzero : (0.0 : Float) ≤ 0.0 := by decide
  have hpos : (0.0 : Float) < 0.1 := by decide
  exact ⟨⟨hzero, ((step_reports_what_it_commits.1 .rungeKutta springBody _ 0.0).1 hzero).1⟩,
    ⟨.inl hpos, (step_reports_what_it_commits.1 .rungeKutta springBody _ 0.1).2 (.inl hpos)⟩⟩

end CrowdSim
