import CrowdSim.Proofs.FloatOrder
import CrowdSim.Proofs.FailedCalls
import CrowdSim.Sim.Run

/-!
# Engine epochs and the time scale

While a simulation runs, viewers turn its knobs: they install an integration scheme (directly or
by name), a force model, or settings that may name a scheme, pause or rescale time. Between these
calls the clock ticks, one tick at a time or on a running clock. Each replacement of the engine goes through `Simulation.swap`, which counts
it in the epoch; a tick reads the engine once, when it starts.

`ControlOp` lists these operations and `Simulation.swapsEngine` says, by the rule of each call,
whether it replaces the engine: installing a scheme or a force model always does, choosing a scheme
by name does when the name is known, and control settings do when they name a known scheme other
than the installed one. The main statement, `epoch_counts_engine_swaps`: from a new simulation,
after any sequence of operations, the epoch is the number of replacements they made, a tick
reports that epoch and leaves the engine as it found it, and the time scale lies in `[0, 10]` and
is not NaN.
-/

namespace CrowdSim

/-- An operation on a running simulation: a control call, a tick, or a run of the clock. -/
inductive ControlOp where
  | setScheme (sc : Scheme)
  | setSchemeByName (name : String)
  | setForceModel (m : ForceModel)
  | applyControl (cs : ControlSettings)
  | setPaused (p : Bool)
  | setTimeScale (x : Float)
  | tick (now dt : Float)
  | step (dt : Float)
  | run (interval : Float) (ticks : Nat)

/-- A time scale a viewer may see: within `[0, maxTimeScale]`, which also rules out NaN. -/
def ScaleInRange (x : Float) : Prop := 0.0 ≤ x ∧ x ≤ maxTimeScale ∧ x.isNaN = false

namespace Simulation

/-- The simulation after an operation. -/
def perform (s : Simulation) : ControlOp → Simulation
  | .setScheme sc => s.setScheme sc
  | .setSchemeByName name => (s.setSchemeByName name).1
  | .setForceModel m => s.setForceModel m
  | .applyControl cs => (s.applyControl cs).1
  | .setPaused p => s.setPaused p
  | .setTimeScale x => s.setTimeScale x
  | .tick now dt => (s.tick now dt).1
  | .step dt => (s.step dt).1
  | .run interval ticks => (s.run interval ticks).1

/-- Whether an operation replaces the engine. -/
def swapsEngine (s : Simulation) : ControlOp → Bool
  | .setScheme _ => true
  | .setForceModel _ => true
  | .setSchemeByName name => (Scheme.ofName? name).isSome
  | .applyControl cs =>
    cs.integrator != "" &&
      match Scheme.ofName? cs.integrator with
      | some sc => sc.name != s.engine.scheme.name
      | none => false
  | _ => false

/-- The operations performed in order. -/
def performAll (s : Simulation) (ops : List ControlOp) : Simulation := ops.foldl perform s

/-- The number of engine replacements made by a sequence of operations. -/
def swapCount (s : Simulation) : List ControlOp → Nat
  | [] => 0
  | op :: ops => (if s.swapsEngine op then 1 else 0) + swapCount (s.perform op) ops

/-! ## What each call does to the engine and the time scale -/

@[simp] theorem setScheme_engine (s : Simulation) (sc : Scheme) :
    (s.setScheme sc).engine = { s.engine with scheme := sc, epoch := s.engine.epoch + 1 } := rfl

@[simp] theorem setScheme_timeScale (s : Simulation) (sc : Scheme) :
    (s.setScheme sc).timeScale = s.timeScale := rfl

@[simp] theorem setPaused_engine (s : Simulation) (p : Bool) : (s.setPaused p).engine = s.engine :=
  rfl

@[simp] theorem setPaused_timeScale (s : Simulation) (p : Bool) :
    (s.setPaused p).timeScale = s.timeScale := rfl

@[simp] theorem setTimeScale_engine (s : Simulation) (x : Float) :
    (s.setTimeScale x).engine = s.engine := rfl

/-- A tick leaves the engine as it found it. -/
@[simp] theorem tick_engine (s : Simulation) (now dt : Float) : (s.tick now dt).1.engine = s.engine :=
  by simp only [tick]

/-- A tick leaves the time scale as it found it. -/
@[simp] theorem tick_timeScale (s : Simulation) (now dt : Float) :
    (s.tick now dt).1.timeScale = s.timeScale := by
  simp only [tick]

/-- A tick reports the epoch of the engine it ran with, the one installed when it began. -/
theorem tick_epoch (s : Simulation) (now dt : Float) : (s.tick now dt).2.epoch = s.engine.epoch := by
  simp only [tick]

/-- A run of the clock ticks with the engine and time scale it found, and then pauses. -/
theorem run_engine_timeScale (s : Simulation) (interval : Float) (ticks : Nat) :
    (s.run interval ticks).1.engine = s.engine ∧
      (s.run interval ticks).1.timeScale = s.timeScale := by
  -- each clock tick is a `step`, which keeps both
  have hticks : ∀ (n : Nat) (t : Simulation) (acc : List Snapshot),
      (runTicks interval n t acc).1.engine = t.engine ∧
        (runTicks interval n t acc).1.timeScale = t.timeScale := by
    intro n
    induction n with
    | zero => intro t acc; exact ⟨rfl, rfl⟩
    | succ n ih =>
      intro t acc
      unfold runTicks
      split
      · exact ⟨rfl, rfl⟩
      · obtain ⟨he, hs⟩ := ih (t.step (interval * t.timeScale)).1
          (acc ++ [(t.step (interval * t.timeScale)).1.snapshot])
        exact ⟨by rw [he]; simp [step], by rw [hs]; simp [step]⟩
  obtain ⟨he, hs⟩ := hticks ticks s []
  exact ⟨by simpa [run] using he, by simpa [run] using hs⟩

/-- Every time scale that `setTimeScale` stores is in range: a negative or NaN request becomes
zero, one above the largest scale becomes the largest, and the rest lie between. -/
theorem setTimeScale_inRange (s : Simulation) (x : Float) : ScaleInRange (s.setTimeScale x).timeScale := by
  have hzero : ScaleInRange 0.0 := by unfold ScaleInRange maxTimeScale; decide
  have htop : ScaleInRange maxTimeScale := by unfold ScaleInRange maxTimeScale; decide
  unfold setTimeScale
  by_cases hlow : (x < 0.0 || x.isNaN) = true
  · simpa only [hlow, if_true] using hzero
  · by_cases hhigh : x > maxTimeScale
    · simpa only [hlow, hhigh, if_true, if_false, Bool.false_eq_true] using htop
    · simp only [hlow, hhigh, if_false, Bool.false_eq_true]
      simp only [Bool.or_eq_true, decide_eq_true_eq, not_or, Bool.not_eq_true] at hlow
      obtain ⟨hneg, hnan⟩ := hlow
      have hmax : maxTimeScale.isNaN = false := by unfold maxTimeScale; decide
      have hzero' : (0.0 : Float).isNaN = false := by decide
      exact ⟨float_le_of_not_lt hnan hzero' hneg, float_le_of_not_lt hmax hnan hhigh, hnan⟩

/-- Choosing a scheme by name replaces the engine exactly when the name is known. -/
theorem setSchemeByName_engine (s : Simulation) (name : String) :
    (s.setSchemeByName name).1.engine =
      match Scheme.ofName? name with
      | some sc => { s.engine with scheme := sc, epoch := s.engine.epoch + 1 }
      | none => s.engine := by
  unfold setSchemeByName Scheme.ofName
  cases Scheme.ofName? name <;> rfl

/-- Choosing a scheme by name leaves the time scale alone. -/
theorem setSchemeByName_timeScale (s : Simulation) (name : String) :
    (s.setSchemeByName name).1.timeScale = s.timeScale := by
  unfold setSchemeByName Scheme.ofName
  cases Scheme.ofName? name <;> rfl

/-- Control settings replace the engine exactly when they name a known scheme other than the
installed one; pausing and the time scale leave the engine alone. -/
theorem applyControl_engine (s : Simulation) (cs : ControlSettings) :
    (s.applyControl cs).1.engine =
      if s.swapsEngine (.applyControl cs) then
        { s.engine with scheme := (Scheme.ofName? cs.integrator).getD s.engine.scheme,
                        epoch := s.engine.epoch + 1 }
      else s.engine := by
  unfold applyControl swapsEngine Scheme.ofName
  by_cases hi : (cs.integrator == "") = true
  · have hne : (cs.integrator != "") = false := by simp_all
    cases cs.paused <;> cases cs.timeScale <;> simp [hi, hne]
  · have hne : (cs.integrator != "") = true := by simp_all
    cases hn : Scheme.ofName? cs.integrator with
    | none => simp [hi, hne, hn]
    | some sc =>
      by_cases hname : (sc.name != s.engine.scheme.name) = true
      · cases cs.paused <;> cases cs.timeScale <;> simp [hi, hne, hn, hname]
      · cases cs.paused <;> cases cs.timeScale <;> simp_all

/-- Control settings either keep the time scale or store the one they request. -/
theorem applyControl_timeScale (s : Simulation) (cs : ControlSettings) :
    (s.applyControl cs).1.timeScale = s.timeScale ∨
      ∃ x, (s.applyControl cs).1.timeScale = (s.setTimeScale x).timeScale := by
  unfold applyControl
  -- the time scale is the last knob: either it is requested and stored, or it stays
  by_cases hi : (cs.integrator == "") = true
  · cases cs.paused <;> cases cs.timeScale <;> simp [hi] <;> exact .inr ⟨_, rfl⟩
  · cases hn : Scheme.ofName cs.integrator with
    | error msg => simp [hi]
    | ok sc =>
      by_cases hname : (sc.name != s.engine.scheme.name) = true
      · cases cs.paused <;> cases cs.timeScale <;> simp [hi, hname] <;> exact .inr ⟨_, rfl⟩
      · cases cs.paused <;> cases cs.timeScale <;> simp [hi, hname] <;> exact .inr ⟨_, rfl⟩

/-- Control settings leave the time scale in range. -/
theorem applyControl_inRange (s : Simulation) (cs : ControlSettings)
    (h : ScaleInRange s.timeScale) : ScaleInRange (s.applyControl cs).1.timeScale := by
  rcases applyControl_timeScale s cs with hkeep | ⟨x, hset⟩
  · rwa [hkeep]
  · rw [hset]
    exact setTimeScale_inRange s x

/-! ## Runs of operations -/

/-- **One operation** adds one to the epoch exactly when it replaces the engine. -/
theorem perform_epoch (s : Simulation) (op : ControlOp) :
    (s.perform op).engine.epoch = s.engine.epoch + if s.swapsEngine op then 1 else 0 := by
  cases op with
  | setScheme sc => rfl
  | setSchemeByName name =>
    simp only [perform, swapsEngine, setSchemeByName_engine]
    split <;> simp_all
  | setForceModel m => rfl
  | applyControl cs =>
    simp only [perform, applyControl_engine]
    split <;> simp_all
  | setPaused p => simp [perform, swapsEngine]
  | setTimeScale x => simp [perform, swapsEngine]
  | tick now dt => simp [perform, swapsEngine]
  | step dt => simp [perform, swapsEngine, step]
  | run interval ticks => simp [perform, swapsEngine, (run_engine_timeScale s interval ticks).1]

/-- **One operation** keeps the time scale in range. -/
theorem perform_inRange (s : Simulation) (op : ControlOp) (h : ScaleInRange s.timeScale) :
    ScaleInRange (s.perform op).timeScale := by
  cases op with
  | setScheme sc => simpa [perform] using h
  | setSchemeByName name => simpa [perform, setSchemeByName_timeScale] using h
  | setForceModel m => exact h
  | applyControl cs => exact applyControl_inRange s cs h
  | setPaused p => exact h
  | setTimeScale x => exact setTimeScale_inRange s x
  | tick now dt => simpa [perform] using h
  | step dt => simpa [perform, step] using h
  | run interval ticks => simpa [perform, (run_engine_timeScale s interval ticks).2] using h

/-- **A run of operations** adds to the epoch the number of replacements it makes. -/
theorem performAll_epoch (s : Simulation) (ops : List ControlOp) :
    (s.performAll ops).engine.epoch = s.engine.epoch + s.swapCount ops := by
  induction ops generalizing s with
  | nil => rfl
  | cons op ops ih =>
    simp only [performAll, List.foldl_cons] at ih ⊢
    rw [ih, perform_epoch, swapCount]
    omega

/-- **A run of operations** keeps the time scale in range. -/
theorem performAll_inRange (s : Simulation) (ops : List ControlOp) (h : ScaleInRange s.timeScale) :
    ScaleInRange (s.performAll ops).timeScale := by
  induction ops generalizing s with
  | nil => exact h
  | cons op ops ih => exact ih (s.perform op) (perform_inRange s op h)

/-- A new simulation has replaced no engine yet and runs at one simulated second per second. -/
theorem make_epoch_timeScale {cfg : Config} {s : Simulation} (h : make cfg = .ok s) :
    s.engine.epoch = 0 ∧ s.timeScale = 1.0 := by
  unfold make at h
  split at h
  · cases h
  · split at h
    · cases h
    · cases h
    · cases h
      exact ⟨rfl, rfl⟩

end Simulation

/-- **The epoch counts the engine swaps.** From a new simulation, after any sequence of control
calls and ticks, the epoch is the number of engine replacements the calls made: one for each scheme
or force model installed, one for each known scheme chosen by name, and one for each control
settings naming a known scheme other than the installed one. A tick then reports that epoch and
leaves the engine it read at its start in place, and the time scale lies in `[0, 10]` and is not
NaN. -/
theorem epoch_counts_engine_swaps (cfg : Config) (s : Simulation)
    (hs : Simulation.make cfg = .ok s) (ops : List ControlOp) :
    let t := s.performAll ops
    t.engine.epoch = s.swapCount ops ∧
      (∀ now dt, (t.tick now dt).2.epoch = s.swapCount ops ∧ (t.tick now dt).1.engine = t.engine) ∧
      ScaleInRange t.timeScale := by
  intro t
  obtain ⟨h0, h1⟩ := Simulation.make_epoch_timeScale hs
  have hepoch : t.engine.epoch = s.swapCount ops := by
    rw [Simulation.performAll_epoch, h0, Nat.zero_add]
  have hscale : ScaleInRange s.timeScale := by
    rw [h1]
    unfold ScaleInRange maxTimeScale
    decide
  refine ⟨hepoch, fun now dt => ⟨?_, Simulation.tick_engine t now dt⟩,
    Simulation.performAll_inRange s ops hscale⟩
  rw [Simulation.tick_epoch, hepoch]

/-- The default configuration: raising the time scale past the limit, choosing the Euler scheme
with a NaN time scale, ticking, and naming an unknown scheme make one replacement, and the time
scale ends at zero. -/
theorem epoch_counts_engine_swaps_by_default :
    let ops : List ControlOp := [.setTimeScale 25.0, .applyControl ⟨"euler", none, some (0.0 / 0.0)⟩,
      .tick 0.0 0.1, .setSchemeByName "leapfrog"]
    ∃ s, Simulation.make Config.default = .ok s ∧
      (s.performAll ops).engine.epoch = s.swapCount ops ∧
      (∀ now dt, ((s.performAll ops).tick now dt).2.epoch = s.swapCount ops ∧
        ((s.performAll ops).tick now dt).1.engine = (s.performAll ops).engine) ∧
      ScaleInRange (s.performAll ops).timeScale := by
  intro ops
  have hok : (Simulation.make Config.default).isOk = true := by decide
  cases hs : Simulation.make Config.default with
  | error e => rw [hs] at hok; cases hok
  | ok s => exact ⟨s, rfl, epoch_counts_engine_swaps Config.default s hs ops⟩

end CrowdSim
