import CrowdSim.Protobuf.Wire
import CrowdSim.Json.Parse

/-!
# Dynamic records

A `Struct` is the protocol buffer form of a JSON object: a map from names to dynamic values,
each value one of null, a double, a string, a boolean, a nested record or a list. A value read
from the wire may also carry none of them (`Value.unset`).

On the wire (`Struct.decode`):

* a record is a sequence of entries (field 1), each a key (field 1) and a value (field 2); of
  two entries with one key the later wins;
* a value holds its kind in fields 1 to 6 (null, number, string, bool, record, list); the last
  one read wins, and a record or list read over one of the same kind merges into it;
* a list holds its values in field 1;
* unknown fields and fields of an unexpected wire type are skipped, strings must be UTF-8, field
  numbers must fit in 29 bits, and messages nest at most ten thousand deep.

In text (`Struct.ofText`) the record is a JSON object, read strictly: one object and nothing but
blanks after it, no repeated name in any object, no lone surrogate escape, and every number
within the range of a double.

`Struct.encode` writes the entries in the given order; a kind is written even when its value is
zero.
-/

namespace CrowdSim

namespace Protobuf

/-- A dynamic value. -/
inductive Value where
  /-- A value message with no kind set. -/
  | unset
  | null
  | number (x : Float)
  | text (s : String)
  | flag (b : Bool)
  | record (fields : List (String × Value))
  | list (items : List Value)
  deriving Inhabited

/-- A record: its entries in the order read; a later entry overrides an earlier one. -/
abbrev Struct := List (String × Value)

/-- The value of the last entry with this key. -/
def Struct.get? (st : Struct) (key : String) : Option Value :=
  (st.reverse.find? fun e => e.1 == key).map (·.2)

/-- The keys in the order they were first read, each once. -/
def Struct.keys (st : Struct) : List String :=
  (st.map (·.1)).eraseDups

/-- Why bytes or text are not a record. -/
inductive StructError where
  | wire (e : WireError)
  /-- A field number beyond 29 bits. -/
  | fieldNumber
  /-- An end-group tag where a field should start. -/
  | endGroup
  /-- A key or string value that is not UTF-8. -/
  | invalidUtf8
  /-- Messages nested beyond the limit. -/
  | depth
  /-- Text that is not one well-formed JSON object. -/
  | malformedText (why : String)
  /-- A number too large for a double. -/
  | numberRange
  /-- A name repeated within one object. -/
  | duplicateKey (key : String)
  deriving Inhabited

/-- Lifts a wire fault. -/
def wireStep {α : Type} : Except WireError α → Except StructError α
  | .ok a => .ok a
  | .error e => .error (.wire e)

/-- The depth to which messages may nest. -/
def messageDepth : Nat := 10000

/-- The largest field number a message may use. -/
def maxFieldNumber : Nat := Nat.pow 2 29 - 1

/-- A field tag inside a message: its number must fit in 29 bits, and an end-group tag cannot
start a field. -/
def messageTag (bs : Bytes) : Except StructError ((Nat × WireType) × Bytes) := do
  let ((num, t), rest) ← wireStep (readTag bs)
  if num > maxFieldNumber then .error .fieldNumber
  else if t == .endGroup then .error .endGroup
  else pure ((num, t), rest)

/-- A UTF-8 string field. -/
def readText (bs : Bytes) : Except StructError (String × Bytes) := do
  let (s, rest) ← wireStep (readBytes bs)
  if Utf8.valid s then pure (Utf8.decodeLossy s, rest) else .error .invalidUtf8

/-- Steps over a field that the reader does not use. -/
def skipUnknown (num : Nat) (t : WireType) (bs : Bytes) : Except StructError Bytes :=
  wireStep (skip num t bs)

/-- The entries of a record value, for merging into. -/
def Value.fields : Value → Struct
  | .record fs => fs
  | _ => []

/-- The items of a list value, for merging into. -/
def Value.items : Value → List Value
  | .list xs => xs
  | _ => []

mutual

/-- A value message merged into `v`; `budget` counts the message levels still allowed. -/
def valueMessage (fuel budget : Nat) (v : Value) (bs : Bytes) : Except StructError Value :=
  match fuel, budget with
  | 0, _ => .error .depth
  | _, 0 => .error .depth
  | fuel + 1, budget + 1 => valueFields fuel budget v bs

/-- The fields of a value message. -/
def valueFields (fuel budget : Nat) (v : Value) (bs : Bytes) : Except StructError Value :=
  match fuel with
  | 0 => .error .depth
  | fuel + 1 =>
    match bs with
    | [] => .ok v
    | _ :: _ => do
      let ((num, t), rest) ← messageTag bs
      match num, t with
      | 1, .varint => do
        let (_, rest) ← wireStep (readVarint rest)
        valueFields fuel budget .null rest
      | 2, .fixed64 => do
        let (w, rest) ← wireStep (readFixed64 rest)
        valueFields fuel budget (.number (Float.ofBits w)) rest
      | 3, .bytes => do
        let (s, rest) ← readText rest
        valueFields fuel budget (.text s) rest
      | 4, .varint => do
        let (w, rest) ← wireStep (readVarint rest)
        valueFields fuel budget (.flag (w != 0)) rest
      | 5, .bytes => do
        let (body, rest) ← wireStep (readBytes rest)
        let fs ← structMessage fuel budget v.fields body
        valueFields fuel budget (.record fs) rest
      | 6, .bytes => do
        let (body, rest) ← wireStep (readBytes rest)
        let xs ← listMessage fuel budget v.items body
        valueFields fuel budget (.list xs) rest
      | _, _ => do
        let rest ← skipUnknown num t rest
        valueFields fuel budget v rest

/-- A record message whose entries extend `acc`. -/
def structMessage (fuel budget : Nat) (acc : Struct) (bs : Bytes) : Except StructError Struct :=
  match fuel, budget with
  | 0, _ => .error .depth
  | _, 0 => .error .depth
  | fuel + 1, budget + 1 => structFields fuel budget acc bs

/-- The fields of a record message. -/
def structFields (fuel budget : Nat) (acc : Struct) (bs : Bytes) : Except StructError Struct :=
  match fuel with
  | 0 => .error .depth
  | fuel + 1 =>
    match bs with
    | [] => .ok acc
    | _ :: _ => do
      let ((num, t), rest) ← messageTag bs
      if num == 1 && t == .bytes then do
        let (body, rest) ← wireStep (readBytes rest)
        let e ← entryFields fuel budget ("", .unset) body
        structFields fuel budget (acc ++ [e]) rest
      else do
        let rest ← skipUnknown num t rest
        structFields fuel budget acc rest

/-- The fields of one record entry: the key, and the value, into which repeated value fields
merge. -/
def entryFields (fuel budget : Nat) (e : String × Value) (bs : Bytes) :
    Except StructError (String × Value) :=
  match fuel with
  | 0 => .error .depth
  | fuel + 1 =>
    match bs with
    | [] => .ok e
    | _ :: _ => do
      let ((num, t), rest) ← messageTag bs
      if num == 1 && t == .bytes then do
        let (k, rest) ← readText rest
        entryFields fuel budget (k, e.2) rest
      else if num == 2 && t == .bytes then do
        let (body, rest) ← wireStep (readBytes rest)
        let v ← valueMessage fuel budget e.2 body
        entryFields fuel budget (e.1, v) rest
      else do
        let rest ← skipUnknown num t rest
        entryFields fuel budget e rest

/-- A list message whose items extend `acc`. -/
def listMessage (fuel budget : Nat) (acc : List Value) (bs : Bytes) :
    Except StructError (List Value) :=
  match fuel, budget with
  | 0, _ => .error .depth
  | _, 0 => .error .depth
  | fuel + 1, budget + 1 => listFields fuel budget acc bs

/-- The fields of a list message. -/
def listFields (fuel budget : Nat) (acc : List Value) (bs : Bytes) :
    Except StructError (List Value) :=
  match fuel with
  | 0 => .error .depth
  | fuel + 1 =>
    match bs with
    | [] => .ok acc
    | _ :: _ => do
      let ((num, t), rest) ← messageTag bs
      if num == 1 && t == .bytes then do
        let (body, rest) ← wireStep (readBytes rest)
        let v ← valueMessage fuel budget .unset body
        listFields fuel budget (acc ++ [v]) rest
      else do
        let rest ← skipUnknown num t rest
        listFields fuel budget acc rest

end

/-- The record written by the bytes. The fuel, twice the length and more, outlasts the reading:
each field takes a byte, and each nested message two bytes of the field that holds it. -/
def Struct.decode (bs : Bytes) : Except StructError Struct :=
  structMessage (2 * bs.length + 4) messageDepth [] bs

/-! ## Text form -/

/-- The names of an object's members repeat. -/
def repeatsName (ms : List (String × Json)) : Option String :=
  let names := ms.map (·.1)
  names.find? fun n => names.count n > 1

mutual

/-- The value of a JSON value; `budget` counts the message levels still allowed. -/
def Value.ofJson (budget : Nat) (j : Json) : Except StructError Value :=
  match budget with
  | 0 => .error .depth
  | budget + 1 =>
    match j with
    | .null => .ok .null
    | .bool b => .ok (.flag b)
    | .num t =>
      match Numeral.parse? t with
      | some n =>
        let x := n.toFloat
        if x.isInf then .error .numberRange else .ok (.number x)
      | none => .error (.malformedText "bad number")
    | .str s => .ok (.text s)
    | .obj ms =>
      match repeatsName ms with
      | some n => .error (.duplicateKey n)
      | none => do
        let fs ← Struct.entriesOfJson budget ms
        pure (.record fs)
    | .arr xs => do
      let vs ← Value.listOfJson budget xs
      pure (.list vs)

/-- The values of a JSON array. -/
def Value.listOfJson (budget : Nat) : List Json → Except StructError (List Value)
  | [] => .ok []
  | x :: xs => do
    let v ← Value.ofJson budget x
    let vs ← Value.listOfJson budget xs
    pure (v :: vs)

/-- The entries of a list of members. -/
def Struct.entriesOfJson (budget : Nat) : List (String × Json) → Except StructError Struct
  | [] => .ok []
  | (k, j) :: ms => do
    let v ← Value.ofJson budget j
    let rest ← Struct.entriesOfJson budget ms
    pure ((k, v) :: rest)

end

/-- The entries of a JSON object's members, each name once. -/
def Struct.ofMembers (budget : Nat) (ms : List (String × Json)) : Except StructError Struct :=
  match repeatsName ms with
  | some n => .error (.duplicateKey n)
  | none => Struct.entriesOfJson budget ms

/-- The record written as JSON text. -/
def Struct.ofText (text : String) : Except StructError Struct :=
  match Json.parseWith true text with
  | .error why => .error (.malformedText why)
  | .ok (.obj ms) => Struct.ofMembers (messageDepth - 1) ms
  | .ok _ => .error (.malformedText "not an object")

/-! ## Writing -/

mutual

/-- The bytes of a value message. Unlike a plain field, a kind is written even when zero. -/
def Value.encode : Value → Bytes
  | .unset => []
  | .null => tag 1 .varint ++ [0]
  | .number x => tag 2 .fixed64 ++ fixed64 x.toBits
  | .text s => bytesField 3 (Utf8.encode s)
  | .flag b => tag 4 .varint ++ [if b then 1 else 0]
  | .record fs => bytesField 5 (Struct.encodeEntries fs)
  | .list xs => bytesField 6 (Value.encodeItems xs)

/-- The entries of a record message. -/
def Struct.encodeEntries : List (String × Value) → Bytes
  | [] => []
  | (k, v) :: fs =>
    bytesField 1 (bytesField 1 (Utf8.encode k) ++ bytesField 2 v.encode) ++
      Struct.encodeEntries fs

/-- The items of a list message. -/
def Value.encodeItems : List Value → Bytes
  | [] => []
  | v :: vs => bytesField 1 v.encode ++ Value.encodeItems vs

end

/-- The bytes of a record, its entries in order. -/
def Struct.encode (st : Struct) : Bytes := Struct.encodeEntries st

end Protobuf

end CrowdSim
