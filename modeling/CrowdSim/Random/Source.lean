import CrowdSim.Random.Scramble

/-!
# The additive random source

`Source` is a lagged Fibonacci generator over 64-bit words: a register of 607 words with a feed
and a tap position 273 apart, both moving down by one each step, where the word at the feed
becomes the sum of itself and the word at the tap. Seeding fills the register from a
multiplicative congruential generator modulo `2 ^ 31 - 1` and XORs in `Random.scramble`.

From the 64-bit words come the derived draws: 63- and 31-bit integers, a uniform double in
`[0, 1)`, and a uniform integer below a bound by rejection. The two loops that redraw (a double
that rounds up to `1`, an integer in the incomplete last block) run on explicit fuel; each redraw
happens with probability below `2 ^ -30`, so the fuel is never used up in practice.
-/

namespace CrowdSim

namespace Random

/-- The state of the additive generator. -/
structure Source where
  tap : Nat
  feed : Nat
  register : Array UInt64
  deriving Inhabited

/-- The modulus of the seeding generator, `2 ^ 31 - 1`. -/
def seedModulus : Int := 2147483647

/-- One step of the seeding generator `x ↦ 48271 · x mod (2 ^ 31 - 1)`, by Schrage's method. -/
def seedStep (x : Int) : Int :=
  let hi := x.tdiv 44488
  let lo := x.tmod 44488
  let y := 48271 * lo - 3399 * hi
  if y < 0 then y + seedModulus else y

/-- The register word made from three steps after `x`, and the last of them. -/
def seedWord (x : Int) (i : Nat) : UInt64 × Int :=
  let x1 := seedStep x
  let x2 := seedStep x1
  let x3 := seedStep x2
  ((UInt64.ofInt x1 <<< 40) ^^^ (UInt64.ofInt x2 <<< 20) ^^^ UInt64.ofInt x3 ^^^
    scramble.getD i 0, x3)

namespace Source

/-- The source of a seed. The seed is reduced modulo `2 ^ 31 - 1` (a zero becomes `89482311`), the
seeding generator is run twenty steps, and then three steps per register word. -/
def ofSeed (seed : Int) : Source :=
  let s := seed.tmod seedModulus
  let s := if s < 0 then s + seedModulus else s
  let s := if s == 0 then 89482311 else s
  let x := (List.range 20).foldl (fun x _ => seedStep x) s
  let fill (acc : Array UInt64 × Int) (i : Nat) : Array UInt64 × Int :=
    let (w, x) := seedWord acc.2 i
    (acc.1.push w, x)
  ⟨0, 607 - 273, ((List.range 607).foldl fill (#[], x)).1⟩

/-- The next 64-bit word. -/
def next (s : Source) : UInt64 × Source :=
  let tap := if s.tap == 0 then 606 else s.tap - 1
  let feed := if s.feed == 0 then 606 else s.feed - 1
  let x := s.register.getD feed 0 + s.register.getD tap 0
  (x, ⟨tap, feed, s.register.setIfInBounds feed x⟩)

/-- A uniform integer in `[0, 2 ^ 63)`. -/
def int63 (s : Source) : UInt64 × Source :=
  let (x, s) := s.next
  (x &&& 0x7FFFFFFFFFFFFFFF, s)

/-- A uniform integer in `[0, 2 ^ 32)`: the top 32 of the 63 bits. -/
def uint32 (s : Source) : UInt64 × Source :=
  let (x, s) := s.int63
  (x >>> 31, s)

/-- A uniform integer in `[0, 2 ^ 31)`: the top 31 of the 63 bits. -/
def int31 (s : Source) : Nat × Source :=
  let (x, s) := s.int63
  ((x >>> 32).toNat, s)

/-- The number of redraws allowed before giving up. -/
def redraws : Nat := 64

/-- A uniform double in `[0, 1)`: 63 random bits over `2 ^ 63`, redrawn when that rounds to `1`. -/
def float64Within : Nat → Source → Float × Source
  | 0, s => (0.0, s)
  | fuel + 1, s =>
    let (x, s) := s.int63
    let f := x.toFloat / 9223372036854775808.0
    if f == 1.0 then float64Within fuel s else (f, s)

/-- A uniform double in `[0, 1)`. -/
def float64 (s : Source) : Float × Source := float64Within redraws s

/-- A uniform integer below `n` from 31-bit draws, rejecting draws in the incomplete last block. -/
def int31nWithin (n : Nat) : Nat → Source → Nat × Source
  | 0, s => (0, s)
  | fuel + 1, s =>
    let (v, s) := s.int31
    if v > 2147483647 - 2147483648 % n then int31nWithin n fuel s else (v % n, s)

/-- A uniform integer in `[0, n)` for `0 < n < 2 ^ 31`; a power of two takes the low bits of one
draw. -/
def intBelow (n : Nat) (s : Source) : Nat × Source :=
  if n &&& (n - 1) == 0 then
    let (v, s) := s.int31
    (v &&& (n - 1), s)
  else int31nWithin n redraws s

end Source

end Random

end CrowdSim
