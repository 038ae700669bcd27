/-!
# Binary64 words

A double is read through its 64-bit word: a sign bit, an 11-bit biased exponent and a 52-bit
fraction. A finite nonzero double is `significand · 2 ^ exponent` with a natural significand,
which is how the decimal printer and the exact arithmetic of this library see it.

The word also travels unchanged through the wire format, so NaN payloads are kept there as
words and never pass through `Float`.
-/

namespace CrowdSim

/-- The three fields of an IEEE 754 binary64 word. -/
structure Binary64 where
  negative : Bool
  biasedExponent : Nat
  fraction : Nat
  deriving Repr, DecidableEq

namespace Binary64

/-- The fields of a 64-bit word. -/
def ofBits (w : UInt64) : Binary64 :=
  ⟨w.toNat >>> 63 == 1, (w.toNat >>> 52) % 2048, w.toNat % Nat.pow 2 52⟩

/-- The fields of a double. -/
def ofFloat (x : Float) : Binary64 := ofBits x.toBits

/-- The word back from its fields. -/
def toBits (b : Binary64) : UInt64 :=
  UInt64.ofNat ((if b.negative then Nat.pow 2 63 else 0) +
    (b.biasedExponent % 2048) * Nat.pow 2 52 + b.fraction % Nat.pow 2 52)

/-- The natural significand: the fraction, with the hidden bit when the word is normal. -/
def significand (b : Binary64) : Nat :=
  if b.biasedExponent = 0 then b.fraction else b.fraction + Nat.pow 2 52

/-- The power of two that scales the significand. -/
def exponent (b : Binary64) : Int :=
  if b.biasedExponent = 0 then -1074 else (b.biasedExponent : Int) - 1075

/-- The word is NaN or an infinity. -/
def isSpecial (b : Binary64) : Bool := b.biasedExponent = 2047

/-- The word is one of the two zeros: exactly when its double compares equal to zero. -/
def isZeroWord (w : UInt64) : Bool := w.toNat % Nat.pow 2 63 == 0

theorem significand_lt (b : Binary64) (h : b.fraction < Nat.pow 2 52) :
    b.significand < Nat.pow 2 53 := by
  have h52 : Nat.pow 2 52 = 4503599627370496 := rfl
  have h53 : Nat.pow 2 53 = 9007199254740992 := rfl
  unfold significand
  split <;> omega

end Binary64

/-- Ten to a natural power, as used throughout the decimal code. -/
def pow10 (n : Nat) : Nat := Nat.pow 10 n

/-- The exact rational value `n / d` of a nonnegative finite double, as a pair of naturals. -/
def Binary64.ratio (b : Binary64) : Nat × Nat :=
  match b.exponent with
  | .ofNat e => (b.significand * Nat.pow 2 e, 1)
  | .negSucc e => (b.significand, Nat.pow 2 (e + 1))

end CrowdSim
