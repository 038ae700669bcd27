import CrowdSim.Broadcast.Frame
import CrowdSim.Broadcast.Control
import CrowdSim.Sim.Snapshot

/-!
# The viewer hub

The hub keeps the viewers connected to one simulation, numbered from zero in the order they
connect, and sends every broadcast to each viewer still connected, as a binary payload: a status
report or a frame.

* A viewer that connects is told the current control state, and so is every other viewer.
* A control message from a viewer that reads as a control message is applied to the simulation
  and the resulting state is reported to all viewers; an unknown integrator changes nothing but
  the state is still reported. A message that does not read is dropped without a reply.
* A frame carries the last tick's number and time, the engine epoch and integrator, and each
  pedestrian's identifiers, position, velocity, total force and flags.
-/

namespace CrowdSim

/-- A payload the hub sends. -/
inductive Payload where
  | status (bytes : Bytes)
  | frame (bytes : Bytes)

/-- What each connected viewer received, viewers in connection order. -/
abbrev Delivery := List (Nat × List Payload)

/-- The connected viewers. -/
structure Hub where
  /-- The numbers of the connected viewers, in connection order. -/
  viewers : List Nat
  /-- The number the next viewer gets. -/
  next : Nat
  deriving Inhabited

/-- The frame of a snapshot. -/
def Frame.ofSnapshot (n : Snapshot) : Frame :=
  ⟨UInt64.ofNat n.stats.tick, n.stats.time.toBits, UInt64.ofNat n.control.epoch,
   Utf8.encode n.control.integrator,
   n.pedestrians.map fun p =>
     ⟨Int64.ofInt p.id, Int64.ofInt p.groupId, Int64.ofInt p.crowdId, FrameVec.ofVec p.position,
      FrameVec.ofVec p.velocity, FrameVec.ofVec p.forces.total, p.waiting, p.lost, p.finished⟩⟩

namespace Hub

/-- No viewer yet. -/
def empty : Hub := ⟨[], 0⟩

/-- The same payloads to every connected viewer. -/
def deliver (h : Hub) (ps : List Payload) : Delivery := h.viewers.map fun v => (v, ps)

/-- The report of a control state; nothing when the state cannot be written. -/
def statusPayloads (c : ControlState) : List Payload :=
  match (Status.ofState c).encode with
  | .ok bs => [.status bs]
  | .error _ => []

/-- A viewer connects and everyone is told the control state. -/
def connect (h : Hub) (s : Simulation) : Hub × Nat × Delivery :=
  let h' : Hub := ⟨h.viewers ++ [h.next], h.next + 1⟩
  (h', h.next, h'.deliver (statusPayloads s.controlState))

/-- A control update applied: the simulation afterwards and the state to report, which is the
unchanged state when the update is refused. -/
def answerControl (s : Simulation) (cs : ControlSettings) : Simulation × ControlState :=
  let (s', r) := s.applyControl cs
  let state := match r with
    | .ok st => st
    | .error _ => s'.controlState
  (s', state)

/-- A control message arrives: if it reads, it is applied and the resulting state reported. -/
def control (h : Hub) (s : Simulation) (msg : Except ControlError ControlSettings) :
    Simulation × Delivery :=
  match msg with
  | .error _ => (s, h.deliver [])
  | .ok cs =>
    let (s', state) := answerControl s cs
    (s', h.deliver (statusPayloads state))

/-- The control state to everyone. -/
def broadcastStatus (h : Hub) (s : Simulation) : Delivery := h.deliver (statusPayloads s.controlState)

/-- The current frame to everyone. -/
def broadcastFrame (h : Hub) (s : Simulation) : Delivery :=
  h.deliver [.frame (Frame.ofSnapshot s.snapshot).encode]

/-- A viewer leaves. -/
def disconnect (h : Hub) (v : Nat) : Hub := { h with viewers := h.viewers.erase v }

end Hub

end CrowdSim
