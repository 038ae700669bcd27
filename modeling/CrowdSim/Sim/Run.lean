import CrowdSim.Sim.Snapshot

/-!
# Running on a clock

`Simulation.run` is the clocked loop: every interval of wall-clock time it steps the simulation
by the interval scaled by the time scale and reports a snapshot, unless paused. Here the clock
ticks a given number of times; the caller then pauses the simulation.
-/

namespace CrowdSim

/-- A duration in nanoseconds as seconds: whole seconds plus the fraction of the rest. -/
def nanosToSeconds (ns : Int) : Float :=
  Float.ofInt (ns.tdiv 1000000000) + Float.ofInt (ns.tmod 1000000000) / 1e9

namespace Simulation

/-- `ticks` clock ticks of `interval` seconds, each stepping `interval · timeScale` and reporting
the snapshot; nothing while paused. -/
def runTicks (interval : Float) : Nat → Simulation → List Snapshot → Simulation × List Snapshot
  | 0, s, acc => (s, acc)
  | n + 1, s, acc =>
    if s.paused then (s, acc)
    else
      let (s, _) := s.step (interval * s.timeScale)
      runTicks interval n s (acc ++ [s.snapshot])

/-- Runs `ticks` clock ticks of `interval` seconds and then pauses. -/
def run (s : Simulation) (interval : Float) (ticks : Nat) : Simulation × List Snapshot :=
  let (s, reports) := runTicks interval ticks s []
  (s.setPaused true, reports)

end Simulation

end CrowdSim
