import CrowdSim.Number.Text
import CrowdSim.Number.Reading

/-!
# JSON values

A JSON document as a tree. Numbers keep the text they were written with: a reader that fills an
integer field must know whether the literal was written as an integer, and a writer puts the
shortest text of a double (`FloatStyle.json`). Objects keep their members in order, duplicates
included; a lookup takes the last member of a name, as a reader that overwrites does.

The writer is compact (no blanks). Non-finite doubles, which JSON cannot express, are written as
the strings `"NaN"`, `"Infinity"` and `"-Infinity"`.
-/

namespace CrowdSim

/-- A JSON value. -/
inductive Json where
  | null
  | bool (b : Bool)
  | num (text : String)
  | str (s : String)
  | arr (items : List Json)
  | obj (members : List (String × Json))
  deriving Inhabited

namespace Json

/-- The hexadecimal digit of a value below sixteen, lowercase. -/
def hexDigit (n : Nat) : Char :=
  if n < 10 then Char.ofNat (48 + n) else Char.ofNat (87 + n)

/-- The escaped form of one character inside a JSON string. -/
def escapeChar (c : Char) : List Char :=
  if c == '"' then ['\\', '"']
  else if c == '\\' then ['\\', '\\']
  else if c == '\n' then ['\\', 'n']
  else if c == '\r' then ['\\', 'r']
  else if c == '\t' then ['\\', 't']
  else if c.toNat < 32 then
    ['\\', 'u', '0', '0', hexDigit (c.toNat / 16), hexDigit (c.toNat % 16)]
  else [c]

/-- A string as a JSON string literal. -/
def quote (s : String) : String :=
  String.ofList ('"' :: (s.toList.flatMap escapeChar ++ ['"']))

/-- A member's value is smaller than the member list that holds it. -/
theorem sizeOf_snd_lt_of_mem {ms : List (String × Json)} {m : String × Json} (h : m ∈ ms) :
    sizeOf m.2 < 1 + sizeOf ms := by
  have hm := List.sizeOf_lt_of_mem h
  cases m with
  | mk k v =>
    simp only [Prod.mk.sizeOf_spec] at hm ⊢
    omega

/-- The compact text of a value. -/
def render : Json → String
  | .null => "null"
  | .bool b => if b then "true" else "false"
  | .num t => t
  | .str s => quote s
  | .arr xs => "[" ++ ",".intercalate (xs.map fun x => render x) ++ "]"
  | .obj ms => "\x7b" ++ ",".intercalate (ms.map fun m => quote m.1 ++ ":" ++ render m.2) ++ "\x7d"
decreasing_by
  · simp_wf
    have := List.sizeOf_lt_of_mem ‹x ∈ xs›
    omega
  · simp_wf
    exact sizeOf_snd_lt_of_mem ‹m ∈ ms›

/-- A double: its shortest text, or the name of a non-finite value as a string. -/
def ofFloat (x : Float) : Json :=
  if x.isNaN then .str "NaN"
  else if x.isInf then .str (if x > 0 then "Infinity" else "-Infinity")
  else .num (FloatStyle.json.render x)

/-- An integer. -/
def ofInt (n : Int) : Json := .num (toString n)

/-- A natural number. -/
def ofNat (n : Nat) : Json := .num (toString n)

/-- The last member of an object with this name. -/
def get? (j : Json) (name : String) : Option Json :=
  match j with
  | .obj ms => (ms.reverse.find? fun m => m.1 == name).map (·.2)
  | _ => none

/-- The member with this name, or `null` when absent. -/
def getD (j : Json) (name : String) : Json := (j.get? name).getD .null

/-- The value is `null` or absent. -/
def isNull : Json → Bool
  | .null => true
  | _ => false

/-- The literal of a number. -/
def numeral? : Json → Option Numeral
  | .num t => Numeral.parse? t
  | _ => none

/-- A double from a number, or from one of the names of a non-finite value. -/
def float? : Json → Option Float
  | .num t => (Numeral.parse? t).map Numeral.toFloat
  | .str "NaN" => some (0.0 / 0.0)
  | .str "Infinity" => some (1.0 / 0.0)
  | .str "-Infinity" => some (-(1.0 / 0.0))
  | _ => none

/-- The items of an array. -/
def items : Json → List Json
  | .arr xs => xs
  | _ => []

/-- The text of a string. -/
def str? : Json → Option String
  | .str s => some s
  | _ => none

/-- The truth value of a boolean. -/
def bool? : Json → Option Bool
  | .bool b => some b
  | _ => none

end Json

end CrowdSim
