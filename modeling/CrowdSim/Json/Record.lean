import CrowdSim.Json.Parse

/-!
# Records read from JSON

A record is read from a JSON object over a starting value: each member in turn updates the field
it names, so a later member of the same name wins and a nested record takes in every member
written for it. A `null` leaves the record, or any field, as it is. A member that names no field,
or a value of the wrong type, fails the whole reading.

Member names match field names without regard to case: both are folded, ASCII letters to upper
case, and the two other characters whose case fold is an ASCII letter (the Kelvin sign and the
long s) to that letter. The dotless i folds only to itself, so it matches no ASCII name.

Numbers are read as doubles, refusing a literal beyond the largest double, or as 64-bit integers,
refusing a fraction, an exponent or an overflow.
-/

namespace CrowdSim

namespace Record

/-- The case fold of one character of a name. -/
def foldChar (c : Char) : Char :=
  if 'a' ≤ c && c ≤ 'z' then Char.ofNat (c.toNat - 32)
  else if c.toNat == 0x212A then 'K'
  else if c.toNat == 0x017F then 'S'
  else c

/-- The case fold of a name. -/
def foldName (s : String) : String := String.ofList (s.toList.map foldChar)

end Record

/-- A field of a record of type `σ`: its name and how a JSON value updates it. -/
structure Field (σ : Type) where
  name : String
  set : Json → σ → Option σ

namespace Record

/-- The field a member name selects. -/
def select {σ : Type} (fields : List (Field σ)) (key : String) : Option (Field σ) :=
  match fields.find? (·.name == key) with
  | some f => some f
  | none => fields.find? fun f => foldName f.name == foldName key

/-- Applies the members in order. -/
def applyMembers {σ : Type} (fields : List (Field σ)) : List (String × Json) → σ → Option σ
  | [], s => some s
  | (k, v) :: rest, s => do
    let f ← select fields k
    let s ← f.set v s
    applyMembers fields rest s

/-- The record read from `j` over `s`: `null` keeps it, an object updates it, anything else
fails. -/
def read {σ : Type} (fields : List (Field σ)) (j : Json) (s : σ) : Option σ :=
  match j with
  | .null => some s
  | .obj ms => applyMembers fields ms s
  | _ => none

/-- The largest value of a 64-bit signed integer. -/
def int64Max : Int := 9223372036854775807

/-- A double field. -/
def float {σ : Type} (name : String) (put : σ → Float → σ) : Field σ :=
  ⟨name, fun j s => match j with
    | .null => some s
    | .num t => (Numeral.parse? t).bind fun n =>
      let x := n.toFloat
      if x.isInf then none else some (put s x)
    | _ => none⟩

/-- A 64-bit integer field. -/
def int {σ : Type} (name : String) (put : σ → Int → σ) : Field σ :=
  ⟨name, fun j s => match j with
    | .null => some s
    | .num t => ((Numeral.parse? t).bind Numeral.toInt?).bind fun n =>
      if n > int64Max || n < -int64Max - 1 then none else some (put s n)
    | _ => none⟩

/-- A text field. -/
def text {σ : Type} (name : String) (put : σ → String → σ) : Field σ :=
  ⟨name, fun j s => match j with
    | .null => some s
    | .str t => some (put s t)
    | _ => none⟩

/-- A truth-value field. -/
def flag {σ : Type} (name : String) (put : σ → Bool → σ) : Field σ :=
  ⟨name, fun j s => match j with
    | .null => some s
    | .bool b => some (put s b)
    | _ => none⟩

/-- A nested record field. -/
def nested {σ τ : Type} (name : String) (fields : List (Field τ)) (get : σ → τ)
    (put : σ → τ → σ) : Field σ :=
  ⟨name, fun j s => (read fields j (get s)).map (put s)⟩

/-- The first JSON value of a text, as a stream reader takes it: a value ends with its last
byte, and whatever follows it is not read. -/
def firstValue (text : String) : Option Json :=
  match Json.parsePrefix text with
  | .error _ => none
  | .ok (j, _) => some j

end Record

end CrowdSim
