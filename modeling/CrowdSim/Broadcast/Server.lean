import CrowdSim.Broadcast.Hub

/-!
# The server: the hub, its handlers and the connections

The hub is shared by the handler of each viewer connection and by the simulation loop, and each
of them holds the hub's lock for one operation at a time. A handler registers its connection, reads
the control state and broadcasts it, then reads control messages: one that decodes is applied to
the simulation and the state it leaves is broadcast; one that does not is dropped. When a read fails the handler returns and removes its connection. Between
these steps, any other handler and the simulation loop may run.

A broadcast writes the payload to each client in turn; a client whose write fails is closed and
dropped on the spot, while its handler only finds out when its next read fails. The peer of a
connection may go away at any moment, after which writes to it fail. The simulation loop advances
the simulation and broadcasts a frame.

`Server.step` is one such step and `Server.run` runs any interleaving of them. The hub's
operations of `Hub` are these steps when no write fails.

Applying an update is one step here (`Event.apply`), while the program takes it in parts: it
swaps the engine for one with the new integrator (a compare-and-swap, retried until it lands),
then sets the pause and then the time scale, each under the simulation's lock taken anew, and
last reads the control state back, again piece by piece. Another handler's update or the
simulation loop can run between the parts, so the program may report a state that mixes two
updates, or that a third update has already changed, where the model reports the state its own
update left. The results about the hub (who receives which payload, and in which order) do not
read the state's contents and hold of either; the ones about the state a handler reports hold
of the model's atomic update only.

Left out: the order in which a broadcast visits its clients (the program walks a map, in no fixed
order; here it is connection order), the websocket handshake (`Broadcast.Handshake`), the log, and
the websocket frames that carry no message.
-/

namespace CrowdSim

/-- Where the handler of a connection is. -/
inductive HandlerPhase where
  /-- The connection has not been accepted. -/
  | idle
  /-- Registered, about to read the control state to greet everyone with. -/
  | greeting
  /-- About to broadcast the control state `st`: the greeting, or the answer to a message. -/
  | reporting (st : ControlState)
  /-- Reading control messages. -/
  | reading
  /-- Read a message that decodes to `cs`, about to apply it. -/
  | applying (cs : ControlSettings)
  /-- Returned, after removing its connection. -/
  | exited
  deriving Inhabited

/-- A viewer connection as the server sees it. -/
structure Link where
  phase : HandlerPhase
  /-- The peer has gone: every write fails. -/
  gone : Bool
  /-- A write failed and the hub closed the connection. -/
  failed : Bool
  deriving Inhabited

namespace Link

/-- A connection not accepted yet. -/
def fresh : Link := ⟨.idle, false, false⟩

/-- Its handler has registered it and has not returned. -/
def registered (l : Link) : Bool :=
  match l.phase with
  | .idle | .exited => false
  | _ => true

end Link

/-- A websocket message from a viewer. -/
inductive ControlMessage where
  | text (s : String)
  | binary (bs : Bytes)

/-- The control update a message carries, or why it does not read: a text message is the JSON
form of the record, a binary one its protobuf form. -/
def ControlMessage.decode : ControlMessage → Except ControlError ControlSettings
  | .text s => ControlSettings.decodeText s
  | .binary bs => ControlSettings.decode bs

/-- The hub, the state of every connection by number, and the simulation. -/
structure Server where
  hub : Hub
  links : Nat → Link
  sim : Simulation

/-- One step of a handler, of the simulation loop, or of the network. -/
inductive Event where
  /-- A viewer connects; its handler registers the connection. -/
  | accept
  /-- The handler of `c` reads the control state to greet everyone with. -/
  | greet (c : Nat)
  /-- The handler of `c` broadcasts the control state it holds. -/
  | report (c : Nat)
  /-- The handler of `c` reads a message and decodes it. -/
  | receive (c : Nat) (m : ControlMessage)
  /-- The handler of `c` applies the update it read. -/
  | apply (c : Nat)
  /-- The handler of `c` fails to read, returns and removes its connection. -/
  | readFails (c : Nat)
  /-- The peer of `c` goes away. -/
  | peerGone (c : Nat)
  /-- The simulation loop broadcasts a frame. -/
  | frame
  /-- The simulation advances by `dt`. -/
  | advance (dt : Float)

/-- A write that went through: the connection and the payload. -/
abbrev Write := Nat × Payload

namespace Server

/-- The server before any viewer. -/
def start (s : Simulation) : Server := ⟨Hub.empty, fun _ => Link.fresh, s⟩

/-- Changes the link of one connection. -/
def setLink (sv : Server) (c : Nat) (f : Link → Link) : Server :=
  { sv with links := fun d => if d = c then f (sv.links c) else sv.links d }

/-- The hub closes a connection whose write failed and drops it from its clients. -/
def dropFailed (sv : Server) (c : Nat) : Server :=
  let sv' := sv.setLink c fun l => { l with failed := true }
  { sv' with hub := { sv.hub with viewers := sv.hub.viewers.erase c } }

/-- One turn of the broadcast loop: write to `c`, or close and drop it when the write fails. -/
def writeTo (p : Payload) (acc : Server × List Write) (c : Nat) : Server × List Write :=
  if (acc.1.links c).gone then (acc.1.dropFailed c, acc.2) else (acc.1, acc.2 ++ [(c, p)])

/-- Writes the payload to each client in turn. -/
def broadcast (sv : Server) (p : Payload) : Server × List Write :=
  sv.hub.viewers.foldl (writeTo p) (sv, [])

/-- Broadcasts each payload in turn. -/
def broadcastAll (sv : Server) (ps : List Payload) : Server × List Write :=
  ps.foldl (fun acc p => ((acc.1.broadcast p).1, acc.2 ++ (acc.1.broadcast p).2)) (sv, [])

/-- One event: the server afterwards and the writes that went through. The step of a handler
that is not at that point does nothing. -/
def step (sv : Server) : Event → Server × List Write
  | .accept =>
    let c := sv.hub.next
    let sv' := sv.setLink c fun l => { l with phase := .greeting }
    ({ sv' with hub := ⟨sv.hub.viewers ++ [c], c + 1⟩ }, [])
  | .greet c =>
    match (sv.links c).phase with
    | .greeting => (sv.setLink c fun l => { l with phase := .reporting sv.sim.controlState }, [])
    | _ => (sv, [])
  | .report c =>
    match (sv.links c).phase with
    | .reporting st =>
      (sv.setLink c fun l => { l with phase := .reading }).broadcastAll (Hub.statusPayloads st)
    | _ => (sv, [])
  | .receive c m =>
    -- a connection the hub closed cannot be read
    match (sv.links c).phase, (sv.links c).failed with
    | .reading, false =>
      match m.decode with
      | .error _ => (sv, [])
      | .ok cs => (sv.setLink c fun l => { l with phase := .applying cs }, [])
    | _, _ => (sv, [])
  | .apply c =>
    match (sv.links c).phase with
    | .applying cs =>
      let (s, state) := Hub.answerControl sv.sim cs
      ({ sv.setLink c fun l => { l with phase := .reporting state } with sim := s }, [])
    | _ => (sv, [])
  | .readFails c =>
    match (sv.links c).phase with
    | .reading =>
      let sv' := sv.setLink c fun l => { l with phase := .exited }
      ({ sv' with hub := { sv.hub with viewers := sv.hub.viewers.erase c } }, [])
    | _ => (sv, [])
  | .peerGone c => (sv.setLink c fun l => { l with gone := true }, [])
  | .frame => sv.broadcastAll [.frame (Frame.ofSnapshot sv.sim.snapshot).encode]
  | .advance dt => ({ sv with sim := (sv.sim.step dt).1 }, [])

/-- Runs the events in order: the server afterwards and every write, in order. -/
def run (sv : Server) : List Event → Server × List Write
  | [] => (sv, [])
  | e :: es =>
    let r := (sv.step e).1.run es
    (r.1, (sv.step e).2 ++ r.2)

end Server

end CrowdSim
