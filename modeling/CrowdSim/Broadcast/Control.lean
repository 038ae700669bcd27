import CrowdSim.Protobuf.Struct
import CrowdSim.Sim.Control
import CrowdSim.Number.Elementary

/-!
# Control messages and status reports

Viewers steer a simulation with control messages and are told its state in status reports; both
are dynamic records (`Protobuf.Struct`).

* A control message may name `integrator` (a string), `paused` (a boolean) and `time_scale` (a
  number); other keys are ignored, and a named key holding another kind of value refuses the
  whole message. It arrives in binary (`ControlSettings.decode`) or as JSON text
  (`ControlSettings.decodeText`).
* A status report holds all four of `integrator`, `paused`, `time_scale` and `epoch`, the epoch
  as a double. Writing it refuses an integrator name that is not UTF-8; reading it takes a key
  of the wrong kind, or a missing one, as zero.
-/

namespace CrowdSim

open Protobuf

/-- Why a control message is refused. -/
inductive ControlError where
  /-- The bytes or text are not a record. -/
  | decode (e : StructError)
  /-- A known key holds a value of another kind; `kind` names the kind it must have. -/
  | wrongKind (key kind : String)
  deriving Inhabited

/-- The report of a refused control message. -/
def ControlError.message : ControlError → String
  | .decode _ => "decode control: malformed message"
  | .wrongKind key kind => "bad control message: " ++ key ++ " must be " ++ kind

/-- Applies one key of a control message to the settings read so far. -/
def ControlSettings.take (cs : ControlSettings) (key : String) (v : Value) :
    Except ControlError ControlSettings :=
  if key == "integrator" then
    match v with
    | .text s => .ok { cs with integrator := s }
    | _ => .error (.wrongKind key "a string")
  else if key == "paused" then
    match v with
    | .flag b => .ok { cs with paused := some b }
    | _ => .error (.wrongKind key "a bool")
  else if key == "time_scale" then
    match v with
    | .number x => .ok { cs with timeScale := some x }
    | _ => .error (.wrongKind key "a number")
  else .ok cs

/-- No knob named. -/
def ControlSettings.none : ControlSettings := ⟨"", Option.none, Option.none⟩

/-- The settings a record names, each key with its last value. -/
def ControlSettings.ofStruct (st : Struct) : Except ControlError ControlSettings :=
  st.keys.foldlM (fun cs key => cs.take key ((st.get? key).getD .unset)) ControlSettings.none

/-- The settings of a binary control message. -/
def ControlSettings.decode (bs : Bytes) : Except ControlError ControlSettings :=
  match Struct.decode bs with
  | .ok st => ControlSettings.ofStruct st
  | .error e => .error (.decode e)

/-- The settings of a control message written as JSON text. -/
def ControlSettings.decodeText (text : String) : Except ControlError ControlSettings :=
  match Struct.ofText text with
  | .ok st => ControlSettings.ofStruct st
  | .error e => .error (.decode e)

/-! ## Status reports -/

/-- The control state as a report carries it: the integrator name as bytes, and the epoch as a
64-bit word. -/
structure Status where
  integrator : Bytes
  paused : Bool
  timeScale : Float
  epoch : UInt64
  deriving Inhabited

/-- The report of a control state. -/
def Status.ofState (c : ControlState) : Status :=
  ⟨Utf8.encode c.integrator, c.paused, c.timeScale, UInt64.ofNat c.epoch⟩

/-- Why a status report cannot be written or read. -/
inductive StatusError where
  /-- The integrator name is not UTF-8. -/
  | invalidName
  | decode (e : StructError)
  deriving Inhabited

/-- The double nearest to a word, a tie going to the even significand. The word's top 53 bits,
rounded (`Elementary.roundShift`), are the significand, under the biased exponent `1023 + len` of
the leading bit at `len`; a rounding that carries to `2 ^ 53` moves on into the next exponent
through the addition. -/
def wordToFloat (w : UInt64) : Float :=
  if w = 0 then 0.0
  else
    let len := w.toNat.log2
    Float.ofBits (UInt64.ofNat ((1022 + len) * Nat.pow 2 52 +
      Elementary.roundShift (w.toNat <<< (52 - len)) (len - 52)))

/-- The integer part of a finite double's magnitude: its significand shifted by its exponent. -/
def Binary64.truncMagnitude (b : Binary64) : Nat :=
  if b.exponent ≥ 0 then b.significand <<< b.exponent.toNat
  else b.significand >>> (-b.exponent).toNat

/-- The word of a double converted to an unsigned 64-bit integer as the processor converts: the
value truncated toward zero, a negative one wrapping around. NaN, the infinities, values of at
least `2 ^ 64` and values of at most `-2 ^ 63` give `2 ^ 63`: from `2 ^ 63` on, the conversion
goes through the signed one of the excess, which is out of range there. -/
def truncWord (x : Float) : UInt64 :=
  let b := Binary64.ofFloat x
  if b.biasedExponent ≥ 1087 || (b.negative && b.biasedExponent ≥ 1086) then 0x8000000000000000
  else if b.negative then 0 - UInt64.ofNat b.truncMagnitude
  else UInt64.ofNat b.truncMagnitude

/-- The record of a report. -/
def Status.toStruct (s : Status) : Except StatusError Struct :=
  if Utf8.valid s.integrator then
    .ok [("integrator", .text (Utf8.decodeLossy s.integrator)), ("paused", .flag s.paused),
      ("time_scale", .number s.timeScale), ("epoch", .number (wordToFloat s.epoch))]
  else .error .invalidName

/-- The bytes of a report. -/
def Status.encode (s : Status) : Except StatusError Bytes :=
  s.toStruct.map Struct.encode

/-- The report a record holds; a key missing or of the wrong kind reads as zero. -/
def Status.ofStruct (st : Struct) : Status :=
  let name := match st.get? "integrator" with
    | some (.text t) => Utf8.encode t
    | _ => []
  let paused := match st.get? "paused" with
    | some (.flag b) => b
    | _ => false
  let number (key : String) : Float := match st.get? key with
    | some (.number x) => x
    | _ => 0.0
  ⟨name, paused, number "time_scale", truncWord (number "epoch")⟩

/-- The report written by the bytes. -/
def Status.decode (bs : Bytes) : Except StatusError Status :=
  match Struct.decode bs with
  | .ok st => .ok (Status.ofStruct st)
  | .error e => .error (.decode e)

end CrowdSim
