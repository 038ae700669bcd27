import CrowdSim.Number.Shortest

/-!
# Float text

Every float this library writes is the shortest decimal that reads back (`Binary64.shortest`),
laid out by a `FloatStyle`: positional notation for a window of decimal exponents, otherwise one
leading digit and an exponent with an explicit sign. Two styles occur: the one of JSON documents
and the one of messages.
-/

namespace CrowdSim

/-- The layout decisions of a float printer. -/
structure FloatStyle where
  /-- Positional notation is used when the decimal exponent `e` of the leading digit satisfies
  `plainFrom ≤ e < plainBelow`; zero is always positional. -/
  plainFrom : Int
  plainBelow : Int
  /-- The least number of digits of a positive exponent. -/
  positiveExponentDigits : Nat
  /-- The least number of digits of a negative exponent. -/
  negativeExponentDigits : Nat
  /-- The texts of a NaN and of the two infinities. -/
  nanText : String
  posInfText : String
  negInfText : String

/-- JSON numbers: positional from `1e-6` up to `1e21`, exponents as `1e-7` and `1e+21`. -/
def FloatStyle.json : FloatStyle := ⟨-6, 21, 2, 1, "NaN", "+Inf", "-Inf"⟩

/-- Numbers in messages: positional from `1e-4` up to `1e6`, exponents of at least two digits,
as `1e+06` and `1e-05`. -/
def FloatStyle.message : FloatStyle := ⟨-4, 6, 2, 2, "NaN", "+Inf", "-Inf"⟩

namespace FloatStyle

/-- Left-pads a digit string with zeros to a least length. -/
def padDigits (width : Nat) (s : String) : String :=
  String.ofList (List.replicate (width - s.length) '0') ++ s

/-- Positional text of `0.d₁…dₙ · 10 ^ point`: the integer digits (at least `0`), then the
fraction digits if any. -/
def plainText (digits : List Char) (point : Int) : String :=
  let n : Int := digits.length
  let intPart : List Char :=
    if point ≤ 0 then ['0']
    else digits.take point.toNat ++ List.replicate (point - n).toNat '0'
  let fracPart : List Char :=
    if point ≥ n then []
    else List.replicate (-point).toNat '0' ++ digits.drop point.toNat
  String.ofList (if fracPart.isEmpty then intPart else intPart ++ '.' :: fracPart)

/-- Exponent text `d.ddd` `e` sign digits, for a value `0.d₁…dₙ · 10 ^ point`. -/
def exponentText (s : FloatStyle) (digits : List Char) (point : Int) : String :=
  let lead := String.ofList (digits.take 1)
  let rest := digits.drop 1
  let mant := if rest.isEmpty then lead else lead ++ "." ++ String.ofList rest
  let e := point - 1
  let body := toString e.natAbs
  if e < 0 then mant ++ "e-" ++ padDigits s.negativeExponentDigits body
  else mant ++ "e+" ++ padDigits s.positiveExponentDigits body

/-- The text of a finite double. -/
def finiteText (s : FloatStyle) (x : Float) : String :=
  let b := Binary64.ofFloat x
  let sign := if b.negative then "-" else ""
  if b.significand = 0 then sign ++ "0"
  else
    let d := b.shortest
    let digits := d.digitChars
    let point := d.point
    let e := point - 1
    if s.plainFrom ≤ e ∧ e < s.plainBelow then sign ++ plainText digits point
    else sign ++ exponentText s digits point

/-- The text of any double in this style. -/
def render (s : FloatStyle) (x : Float) : String :=
  if x.isNaN then s.nanText
  else if x.isInf then (if x > 0 then s.posInfText else s.negInfText)
  else s.finiteText x

end FloatStyle

end CrowdSim
