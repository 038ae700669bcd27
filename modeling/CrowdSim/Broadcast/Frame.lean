import CrowdSim.Protobuf.Wire
import CrowdSim.Plane.Vec

/-!
# Frames

A frame is what viewers receive after each tick: the tick's number and time, the engine epoch
and integrator, and for each pedestrian its identifiers, kinematics and flags. On the wire it is
a protocol buffer message:

* frame: tick (1, varint), time (2, double), epoch (3, varint), integrator (4, bytes),
  pedestrians (5, repeated message);
* pedestrian: id (1), group (2), crowd (3) as 64-bit two's complement varints, position (4),
  velocity (5), force (6) as vector messages, waiting (7), lost (8), finished (9);
* vector: x (1, double), y (2, double).

Doubles travel as their 64-bit words and are kept as words here. Zero scalars are left out (for
a double, both zeros, as the writer compares the double with zero) and vector messages are always
written. `Frame.decode` takes the last
value of a repeated scalar, skips fields it does not know and scalars of an unexpected wire
type, and reports the first malformed field, naming its number when the fault lies in its value.
-/

namespace CrowdSim

open Protobuf

/-- A vector as a frame carries it: the 64-bit words of its two doubles, so that every NaN
payload and both zeros are kept as they are. -/
structure FrameVec where
  x : UInt64
  y : UInt64
  deriving Inhabited, DecidableEq

/-- The vector with both words zero. -/
def FrameVec.zero : FrameVec := ⟨0, 0⟩

/-- The words of a vector's doubles. -/
def FrameVec.ofVec (v : Vec) : FrameVec := ⟨v.x.toBits, v.y.toBits⟩

/-- The vector whose doubles have these words. -/
def FrameVec.toVec (v : FrameVec) : Vec := ⟨Float.ofBits v.x, Float.ofBits v.y⟩

/-- One pedestrian as a frame carries it. -/
structure FrameEntry where
  id : Int64
  group : Int64
  crowd : Int64
  position : FrameVec
  velocity : FrameVec
  force : FrameVec
  waiting : Bool
  lost : Bool
  finished : Bool
  deriving Inhabited, DecidableEq

/-- The state broadcast after a tick. The time is kept as the word of its double, and the
integrator name as bytes: a received frame may carry any. -/
structure Frame where
  tick : UInt64
  time : UInt64
  epoch : UInt64
  integrator : Bytes
  entries : List FrameEntry
  deriving Inhabited, DecidableEq

/-- A pedestrian with every field zero. -/
def FrameEntry.empty : FrameEntry :=
  ⟨0, 0, 0, FrameVec.zero, FrameVec.zero, FrameVec.zero, false, false, false⟩

/-- A frame with every field zero. -/
def Frame.empty : Frame := ⟨0, 0, 0, [], []⟩

/-- Where a frame's bytes go wrong: the number of the field whose value is malformed, if the
fault lies in a value rather than a tag, and the cause. -/
structure FrameError where
  field : Option Nat
  cause : WireError

/-- The report of a malformed frame. -/
def FrameError.message (e : FrameError) : String :=
  let place := match e.field with
    | some n => "field " ++ toString n ++ ": "
    | none => ""
  "decode frame: malformed frame: " ++ place ++ e.cause.message

/-! ## Writing -/

/-- The bytes of a vector message. -/
def FrameVec.encode (v : FrameVec) : Bytes := doubleField 1 v.x ++ doubleField 2 v.y

/-- The bytes of a pedestrian message. -/
def FrameEntry.encode (p : FrameEntry) : Bytes :=
  varintField 1 p.id.toUInt64 ++ varintField 2 p.group.toUInt64 ++
    varintField 3 p.crowd.toUInt64 ++ bytesField 4 p.position.encode ++
    bytesField 5 p.velocity.encode ++ bytesField 6 p.force.encode ++
    boolField 7 p.waiting ++ boolField 8 p.lost ++ boolField 9 p.finished

/-- The bytes of a frame. -/
def Frame.encode (f : Frame) : Bytes :=
  varintField 1 f.tick ++ doubleField 2 f.time ++ varintField 3 f.epoch ++
    (if f.integrator.isEmpty then [] else bytesField 4 f.integrator) ++
    f.entries.flatMap fun p => bytesField 5 p.encode

/-! ## Reading -/

/-- Lifts a fault in the value of field `num`. -/
def atField {α : Type} (num : Nat) : Except WireError α → Except FrameError α
  | .ok a => .ok a
  | .error e => .error ⟨some num, e⟩

/-- Reads the fields of a message one by one into a record, `step` reading each value and
returning the updated record and the bytes after the value. -/
def readFields {σ : Type} (fuel : Nat)
    (step : Nat → Nat → WireType → Bytes → σ → Except FrameError (σ × Bytes)) (s : σ)
    (bs : Bytes) : Except FrameError σ :=
  match fuel with
  | 0 => .ok s
  | fuel + 1 =>
    match bs with
    | [] => .ok s
    | _ :: _ =>
      match readTag bs with
      | .error e => .error ⟨none, e⟩
      | .ok ((num, t), rest) => do
        let (s, rest) ← step fuel num t rest s
        readFields fuel step s rest

/-- Skips a field the reader does not use. -/
def skipField {σ : Type} (num : Nat) (t : WireType) (bs : Bytes) (s : σ) :
    Except FrameError (σ × Bytes) := do
  let rest ← atField num (skip num t bs)
  pure (s, rest)

/-- One field of a vector message: doubles 1 and 2 are the coordinates. -/
def vecField (_ : Nat) (num : Nat) (t : WireType) (bs : Bytes) (v : FrameVec) :
    Except FrameError (FrameVec × Bytes) :=
  if t == .fixed64 && (num == 1 || num == 2) then do
    let (w, rest) ← atField num (readFixed64 bs)
    pure (if num == 1 then { v with x := w } else { v with y := w }, rest)
  else skipField num t bs v

/-- A vector message. -/
def FrameVec.decodeWith (fuel : Nat) (bs : Bytes) : Except FrameError FrameVec :=
  readFields fuel vecField FrameVec.zero bs

/-- Sets a varint field of a pedestrian; numbers without a varint meaning are ignored. -/
def FrameEntry.setVarint (p : FrameEntry) (num : Nat) (w : UInt64) : FrameEntry :=
  let signed := w.toInt64
  match num with
  | 1 => { p with id := signed }
  | 2 => { p with group := signed }
  | 3 => { p with crowd := signed }
  | 7 => { p with waiting := w != 0 }
  | 8 => { p with lost := w != 0 }
  | 9 => { p with finished := w != 0 }
  | _ => p

/-- Sets a vector field of a pedestrian. -/
def FrameEntry.setVec (p : FrameEntry) (num : Nat) (v : FrameVec) : FrameEntry :=
  match num with
  | 4 => { p with position := v }
  | 5 => { p with velocity := v }
  | _ => { p with force := v }

/-- One field of a pedestrian message: every varint is read, and messages 4 to 6 are vectors. -/
def entryField (fuel num : Nat) (t : WireType) (bs : Bytes) (p : FrameEntry) :
    Except FrameError (FrameEntry × Bytes) :=
  if t == .varint then do
    let (w, rest) ← atField num (readVarint bs)
    pure (p.setVarint num w, rest)
  else if t == .bytes && (num == 4 || num == 5 || num == 6) then do
    let (body, rest) ← atField num (readBytes bs)
    let v ← FrameVec.decodeWith fuel body
    pure (p.setVec num v, rest)
  else skipField num t bs p

/-- A pedestrian message. -/
def FrameEntry.decodeWith (fuel : Nat) (bs : Bytes) : Except FrameError FrameEntry :=
  readFields fuel entryField FrameEntry.empty bs

/-- One field of a frame message. Scalars of another wire type are skipped. -/
def frameField (fuel num : Nat) (t : WireType) (bs : Bytes) (f : Frame) :
    Except FrameError (Frame × Bytes) :=
  if num == 1 && t == .varint then do
    let (w, rest) ← atField num (readVarint bs)
    pure ({ f with tick := w }, rest)
  else if num == 2 && t == .fixed64 then do
    let (w, rest) ← atField num (readFixed64 bs)
    pure ({ f with time := w }, rest)
  else if num == 3 && t == .varint then do
    let (w, rest) ← atField num (readVarint bs)
    pure ({ f with epoch := w }, rest)
  else if num == 4 && t == .bytes then do
    let (s, rest) ← atField num (readBytes bs)
    pure ({ f with integrator := s }, rest)
  else if num == 5 && t == .bytes then do
    let (body, rest) ← atField num (readBytes bs)
    let p ← FrameEntry.decodeWith fuel body
    pure ({ f with entries := f.entries ++ [p] }, rest)
  else skipField num t bs f

/-- The frame written by the bytes. The fuel, one more than the length, outlasts the reading:
every field takes at least one byte and nested messages lie inside their field. -/
def Frame.decode (bs : Bytes) : Except FrameError Frame :=
  readFields (bs.length + 1) frameField Frame.empty bs

end CrowdSim
