import CrowdSim.Sim.ConfigFile
import CrowdSim.Sim.Corridor
import CrowdSim.Broadcast.Hub
import CrowdSim.Text.Hex

/-!
# The corridor command

The command builds the demo corridor and serves it to one viewer over standard input and output
instead of a socket, in the hub's wire formats written as hexadecimal lines.

Flags, each as `-name value` or `-name=value`:

* `-config PATH`: a JSON config file; without it the defaults;
* `-seed N`: overrides the config's seed when not zero;
* `-pedestrians N`: walkers in the corridor, 60 by default;
* `-tick D`: the clock interval, a duration such as `100ms` (the default) or `0.5s`.

On start the viewer receives the status report. Each input line is then a command: an empty
line is one clock tick, answered by the frame; a line holding a control message in JSON text is
applied and answered by the status report; `quit` or the end of input stops. Payloads are
written as `status HEX` and `frame HEX`.
-/

namespace CrowdSim.Command

/-- The settings of the command line. -/
structure Options where
  config : Option String
  seed : Int
  pedestrians : Nat
  /-- The clock interval in seconds. -/
  interval : Float

/-- The defaults: no file, no seed override, 60 walkers, a tenth of a second. -/
def Options.default : Options := ⟨none, 0, 60, 0.1⟩

/-- Seconds per unit of a duration. -/
def unitSeconds : String → Option Float
  | "ns" => some 1e-9
  | "us" => some 1e-6
  | "ms" => some 1e-3
  | "s" => some 1.0
  | "m" => some 60.0
  | "h" => some 3600.0
  | _ => none

/-- A duration: a decimal number and a unit. -/
def duration? (s : String) : Option Float := do
  let num := s.toList.takeWhile fun c => c.isDigit || c == '.'
  let unit := s.toList.dropWhile fun c => c.isDigit || c == '.'
  let n ← Numeral.parse? (String.ofList num)
  let u ← unitSeconds (String.ofList unit)
  pure (n.toFloat * u)

/-- Sets one flag. -/
def Options.set (o : Options) (name value : String) : Except String Options :=
  match name with
  | "config" => .ok { o with config := some value }
  | "seed" => match value.toInt? with
    | some n => .ok { o with seed := n }
    | none => .error ("invalid value " ++ value ++ " for flag -seed")
  | "pedestrians" => match value.toNat? with
    | some n => .ok { o with pedestrians := n }
    | none => .error ("invalid value " ++ value ++ " for flag -pedestrians")
  | "tick" => match duration? value with
    | some d => .ok { o with interval := d }
    | none => .error ("invalid value " ++ value ++ " for flag -tick")
  | "addr" => .ok o
  | _ => .error ("flag provided but not defined: -" ++ name)

/-- Reads the flags. -/
def Options.parse (o : Options) : List String → Except String Options
  | [] => .ok o
  | arg :: rest =>
    let name := (arg.dropWhile (· == '-')).toString
    match name.splitOn "=" with
    | [n, v] => do
      let o ← o.set n v
      Options.parse o rest
    | _ =>
      match rest with
      | v :: rest' => do
        let o ← o.set name v
        Options.parse o rest'
      | [] => .error ("flag needs an argument: -" ++ name)

/-- The text of a payload line. -/
def payloadLine : Payload → String
  | .status bs => "status " ++ Hex.encode bs
  | .frame bs => "frame " ++ Hex.encode bs

/-- The lines a delivery writes for the one viewer. -/
def deliveryLines (d : Delivery) : List String :=
  d.flatMap fun (_, ps) => ps.map payloadLine

/-- One command line of the session: the new state and the lines to write, or `none` to stop. -/
def command (o : Options) (h : Hub) (s : Simulation) (line : String) :
    Option (Simulation × List String) :=
  let cmd := line.trimAscii.toString
  if cmd == "quit" then none
  else if cmd.isEmpty then
    let s := if s.paused then s else (s.step (o.interval * s.timeScale)).1
    some (s, deliveryLines (h.broadcastFrame s))
  else
    let (s, d) := h.control s (ControlSettings.decodeText cmd)
    some (s, deliveryLines d)

end CrowdSim.Command

open CrowdSim CrowdSim.Command

/-- Reads the config file, if one is named. -/
def loadConfig (o : Options) : IO (Except String Config) := do
  match o.config with
  | none => pure (.ok Config.default)
  | some path =>
    try
      let text ← IO.FS.readFile path
      pure ((Config.parse text).mapError ConfigError.message)
    catch e => pure (.error ("read config: " ++ toString e))

/-- Serves the session until the input ends. -/
partial def serve (o : Options) (h : Hub) (s : Simulation) (stdin : IO.FS.Stream)
    (stdout : IO.FS.Stream) : IO Unit := do
  let line ← stdin.getLine
  if line.isEmpty then return
  match command o h s line with
  | none => return
  | some (s, out) =>
    for l in out do stdout.putStrLn l
    stdout.flush
    serve o h s stdin stdout

def main (args : List String) : IO UInt32 := do
  let stderr ← IO.getStderr
  match Options.default.parse args with
  | .error e => stderr.putStrLn e; pure 2
  | .ok o =>
    match ← loadConfig o with
    | .error e => stderr.putStrLn ("config: " ++ e); pure 1
    | .ok cfg =>
      let cfg := if o.seed != 0 then { cfg with seed := o.seed } else cfg
      match Simulation.make cfg with
      | .error e => stderr.putStrLn ("simulation: " ++ e.message); pure 1
      | .ok s =>
        match s.corridor o.pedestrians cfg.seed with
        | (_, .error _) => stderr.putStrLn "scenario: the corridor cannot be built"; pure 1
        | (s, .ok ()) =>
          let (h, _, d) := Hub.empty.connect s
          let stdout ← IO.getStdout
          for l in deliveryLines d do stdout.putStrLn l
          stdout.flush
          serve o h s (← IO.getStdin) stdout
          pure 0
