import Mathlib
import CrowdSim.Proofs.WireRoundTrip
import CrowdSim.Proofs.FrameRoundTrip
import CrowdSim.Proofs.Utf8RoundTrip
import CrowdSim.Broadcast.Control

/-!
# Status reports read back

A status report is written as a dynamic record of four scalar entries, its epoch as a double.
This module shows what a report reads back as.

* `truncWord_wordToFloat`: an epoch word comes back as `nearest53` of it, the word rounded to its
  53 leading bits, a tie to the even one; a rounding that reaches `2 ^ 64` is out of range of
  the conversion back and gives `2 ^ 63`. So an epoch comes back unchanged exactly when its bits
  below the 53 leading ones are clear (`truncWord_wordToFloat_eq_self_iff`).
* `Struct.decode_encode`: the record codec reads back every record of scalar values it writes,
  entries in order, when the bytes' lengths fit a varint.
* `status_reads_back_with_rounded_epoch`: a report whose integrator name is UTF-8 is written,
  and reads back with its name, pause flag and time scale unchanged and its epoch rounded.

The epoch side follows the conversion through the fields of the double: `wordToFloat` builds
the word of the double from the leading bit's position and the rounded significand
(`ofFloat_ofBits_normal`), and `truncWord` takes the significand back, shifted by the exponent
(`truncMagnitude_of_exponent`). The record side follows the four mutually recursive readers one
field at a time, with an equation for each field the writer emits.
-/

namespace CrowdSim

open Float.Model

/-! ## Doubles built from their fields -/

/-- A word whose exponent field is not all ones is the word of the double it gives: only NaN
words are changed on the way through a double. -/
theorem float_toBits_ofBits {w : UInt64} (h : w.toNat >>> 52 % 2048 ≠ 2047) :
    (Float.ofBits w).toBits = w := by
  have hnan : @UnpackedFloat.isNaNBits Format.binary64 w.toBitVec = false := by
    simp only [UnpackedFloat.isNaNBits, decide_eq_false_iff_not, not_and]
    intro he
    have := congrArg BitVec.toNat he
    rw [UnpackedFloat.unpackExponent_def, BitVec.extractLsb'_toNat, UInt64.toNat_toBitVec] at this
    exact absurd this (by simpa using h)
  show UInt64.ofBitVec (UnpackedFloat.pack Format.binary64
    (UnpackedFloat.unpack Format.binary64 w.toBitVec)) = w
  rw [UnpackedFloat.pack_unpack, hnan]
  rfl

/-- The fields of the positive double whose leading bit is at `len` and whose significand `sig`
has 53 bits or has carried to `2 ^ 53`: a carry moves on into the exponent. -/
theorem ofFloat_ofBits_normal {len sig : Nat} (hlen : len ≤ 63) (hhi : sig ≤ 2 ^ 53) :
    Binary64.ofFloat (Float.ofBits (UInt64.ofNat ((1022 + len) * Nat.pow 2 52 + sig))) =
      ⟨false, 1022 + len + sig / 2 ^ 52, sig % 2 ^ 52⟩ := by
  have h52 : Nat.pow 2 52 = 4503599627370496 := rfl
  have h52' : (2 : Nat) ^ 52 = 4503599627370496 := by norm_num
  have h53 : (2 : Nat) ^ 53 = 9007199254740992 := by norm_num
  have h64 : (2 : Nat) ^ 64 = 18446744073709551616 := by norm_num
  rw [h53] at hhi
  -- the word stays below `2 ^ 63`: positive, with an exponent field short of all ones
  have hw : (UInt64.ofNat ((1022 + len) * Nat.pow 2 52 + sig)).toNat =
      (1022 + len) * Nat.pow 2 52 + sig := by
    rw [UInt64.toNat_ofNat', h64, h52]
    apply Nat.mod_eq_of_lt
    omega
  unfold Binary64.ofFloat
  rw [float_toBits_ofBits (by rw [hw, Nat.shiftRight_eq_div_pow, h52, h52']; omega)]
  simp only [Binary64.ofBits, hw, Nat.shiftRight_eq_div_pow, Binary64.mk.injEq, h52, h52']
  refine ⟨?_, ?_, ?_⟩
  · have h63 : (2 : Nat) ^ 63 = 9223372036854775808 := by norm_num
    rw [h63, Nat.div_eq_of_lt (by omega)]
    rfl
  · omega
  · omega

/-- The integer part of a double of magnitude at least one, of biased exponent `1023 + k`: its
significand times `2 ^ k`, cut below the 52 fraction bits. -/
theorem truncMagnitude_of_exponent {b : Binary64} {k : Nat} (h : b.biasedExponent = 1023 + k) :
    b.truncMagnitude = b.significand * 2 ^ k / 2 ^ 52 := by
  unfold Binary64.truncMagnitude Binary64.exponent
  rw [h, if_neg (show 1023 + k ≠ 0 by omega)]
  split
  · -- at least `2 ^ 52`: the significand shifted up
    have hk : (((1023 + k : Nat) : Int) - 1075).toNat = k - 52 := by omega
    have hp : 2 ^ k = 2 ^ (k - 52) * 2 ^ 52 := by
      rw [← pow_add, Nat.sub_add_cancel (by omega)]
    rw [hk, Nat.shiftLeft_eq, hp, ← Nat.mul_assoc, Nat.mul_div_cancel _ (by positivity)]
  · -- below `2 ^ 52`: the significand shifted down
    have hk : (-(((1023 + k : Nat) : Int) - 1075)).toNat = 52 - k := by omega
    have hp : 2 ^ 52 = 2 ^ (52 - k) * 2 ^ k := by
      rw [← pow_add, Nat.sub_add_cancel (by omega)]
    rw [hk, Nat.shiftRight_eq_div_pow, hp, Nat.mul_div_mul_right _ _ (by positivity)]

/-- The conversion back of the double built from `len` and `sig`: its value `sig · 2 ^ (len - 52)`
cut to an integer, or `2 ^ 63` when that value is `2 ^ 64`, out of range. -/
theorem truncWord_ofBits_normal {len sig : Nat} (hlen : len ≤ 63) (hlo : 2 ^ 52 ≤ sig)
    (hhi : sig ≤ 2 ^ 53) :
    truncWord (Float.ofBits (UInt64.ofNat ((1022 + len) * Nat.pow 2 52 + sig))) =
      if len = 63 ∧ sig = 2 ^ 53 then 0x8000000000000000
      else UInt64.ofNat (sig * 2 ^ len / 2 ^ 52) := by
  have h52' : (2 : Nat) ^ 52 = 4503599627370496 := by norm_num
  have h53 : (2 : Nat) ^ 53 = 9007199254740992 := by norm_num
  have hp : Nat.pow 2 52 = 2 ^ 52 := rfl
  unfold truncWord
  rw [ofFloat_ofBits_normal hlen hhi]
  have hover : (1087 ≤ 1022 + len + sig / 2 ^ 52) ↔ (len = 63 ∧ sig = 2 ^ 53) := by
    rw [h52', h53]
    omega
  simp only [Bool.false_and, Bool.or_false, decide_eq_true_eq, ge_iff_le, hover,
    Bool.false_eq_true, if_false]
  split
  · rfl
  · congr 1
    rcases Nat.lt_or_ge sig (2 ^ 53) with hs | hs
    · -- no carry: the significand is the rounded one
      have hq : sig / 2 ^ 52 = 1 := by rw [h52']; rw [h53] at hs; omega
      have hr : sig % 2 ^ 52 + 2 ^ 52 = sig := by rw [h52']; rw [h53] at hs; omega
      rw [truncMagnitude_of_exponent (k := len) (by dsimp only; omega)]
      unfold Binary64.significand
      rw [if_neg (by dsimp only; omega)]
      dsimp only
      rw [hp, hr]
    · -- the rounding carried into the next exponent
      have hs' : sig = 2 ^ 53 := le_antisymm hhi hs
      have hq : sig / 2 ^ 52 = 2 := by rw [hs', h52', h53]
      have hr : sig % 2 ^ 52 + 2 ^ 52 = 2 ^ 52 := by rw [hs', h52', h53]
      rw [truncMagnitude_of_exponent (k := len + 1) (by dsimp only; omega)]
      unfold Binary64.significand
      rw [if_neg (by dsimp only; omega)]
      dsimp only
      have hv : 2 ^ 52 * 2 ^ (len + 1) = 2 ^ 53 * 2 ^ len := by ring
      rw [hp, hr, hs', hv]

/-! ## Rounding a word to 53 bits -/

namespace Elementary

theorem roundShift_zero (m : Nat) : roundShift m 0 = m := by
  simp [roundShift]

/-- `roundShift m s` is `m / 2 ^ s` rounded to the nearest natural, a tie to the even one. -/
theorem roundShift_eq (m s : Nat) :
    roundShift m s = if 2 * (m % 2 ^ s) > 2 ^ s ∨ (2 * (m % 2 ^ s) = 2 ^ s ∧ m / 2 ^ s % 2 = 1)
      then m / 2 ^ s + 1 else m / 2 ^ s := by
  rcases Nat.eq_zero_or_pos s with rfl | hs
  · simp [roundShift_zero, Nat.mod_one]
  have h2s : 2 ^ s = 2 * 2 ^ (s - 1) := by
    rw [← pow_succ']
    congr 1
    omega
  have hmod := Nat.mod_add_div m (2 ^ s)
  have hr : m - m / 2 ^ s * 2 ^ s = m % 2 ^ s := by
    rw [Nat.mul_comm]
    omega
  simp only [roundShift, Nat.shiftRight_eq_div_pow, Nat.shiftLeft_eq, Nat.one_mul, hr,
    if_neg (Nat.pos_iff_ne_zero.mp hs)]
  split_ifs <;> omega

theorem roundShift_cases (m s : Nat) :
    roundShift m s = m / 2 ^ s ∨ roundShift m s = m / 2 ^ s + 1 := by
  rw [roundShift_eq]
  split_ifs
  · exact .inr rfl
  · exact .inl rfl

end Elementary

open Elementary

/-- `n` rounded to its 53 leading bits: the nearest number with no bit set below them, a tie going
to the one whose last kept bit is clear. These are the integers a double holds exactly. -/
def nearest53 (n : Nat) : Nat :=
  (if 2 * (n % 2 ^ (n.log2 - 52)) > 2 ^ (n.log2 - 52) ∨
      (2 * (n % 2 ^ (n.log2 - 52)) = 2 ^ (n.log2 - 52) ∧ n / 2 ^ (n.log2 - 52) % 2 = 1)
    then n / 2 ^ (n.log2 - 52) + 1 else n / 2 ^ (n.log2 - 52)) * 2 ^ (n.log2 - 52)

-- `2 ^ 53 + 1` lies halfway and goes to the even neighbour; `2 ^ 53 + 3` goes up
example : nearest53 9007199254740993 = 9007199254740992 := by decide
example : nearest53 9007199254740995 = 9007199254740996 := by decide

theorem nearest53_eq (n : Nat) :
    nearest53 n = roundShift n (n.log2 - 52) * 2 ^ (n.log2 - 52) := by
  rw [nearest53, roundShift_eq]

/-- The rounding keeps a number exactly when its bits below the 53 leading ones are clear. -/
theorem nearest53_eq_self_iff (n : Nat) : nearest53 n = n ↔ n % 2 ^ (n.log2 - 52) = 0 := by
  rw [nearest53_eq]
  constructor
  · intro h
    have hm := Nat.mul_mod_left (roundShift n (n.log2 - 52)) (2 ^ (n.log2 - 52))
    rwa [h] at hm
  · intro h
    have hpos : 0 < 2 ^ (n.log2 - 52) := by positivity
    rw [roundShift_eq, if_neg (by omega)]
    exact Nat.div_mul_cancel (Nat.dvd_of_mod_eq_zero h)

/-- The significand `wordToFloat` rounds a nonzero word to has 53 bits, or carries to `2 ^ 53`. -/
theorem roundedSignificand_bounds {n : Nat} (hn : n ≠ 0) :
    2 ^ 52 ≤ roundShift (n <<< (52 - n.log2)) (n.log2 - 52) ∧
      roundShift (n <<< (52 - n.log2)) (n.log2 - 52) ≤ 2 ^ 53 := by
  have hlo : 2 ^ n.log2 ≤ n := Nat.log2_self_le hn
  have hhi : n < 2 ^ (n.log2 + 1) := Nat.lt_log2_self
  rw [Nat.shiftLeft_eq]
  by_cases hlen : n.log2 ≤ 52
  · -- the word is exact: shifted up to 53 bits
    have hs : n.log2 - 52 = 0 := by omega
    rw [hs, roundShift_zero]
    have hp : 2 ^ n.log2 * 2 ^ (52 - n.log2) = 2 ^ 52 := by
      rw [← pow_add, Nat.add_sub_cancel' hlen]
    have hp' : 2 ^ (n.log2 + 1) * 2 ^ (52 - n.log2) = 2 ^ 53 := by
      rw [← pow_add]
      congr 1
      omega
    constructor
    · calc 2 ^ 52 = 2 ^ n.log2 * 2 ^ (52 - n.log2) := hp.symm
        _ ≤ n * 2 ^ (52 - n.log2) := Nat.mul_le_mul_right _ hlo
    · calc n * 2 ^ (52 - n.log2) ≤ 2 ^ (n.log2 + 1) * 2 ^ (52 - n.log2) :=
            Nat.mul_le_mul_right _ hhi.le
        _ = 2 ^ 53 := hp'
  · -- the word is cut to its 53 leading bits, which the quotient holds
    have hs : 52 - n.log2 = 0 := by omega
    rw [hs, pow_zero, Nat.mul_one]
    have hp : 2 ^ n.log2 = 2 ^ 52 * 2 ^ (n.log2 - 52) := by
      rw [← pow_add, Nat.add_sub_cancel' (by omega)]
    have hpos : 0 < 2 ^ (n.log2 - 52) := by positivity
    have hq1 : 2 ^ 52 ≤ n / 2 ^ (n.log2 - 52) := (Nat.le_div_iff_mul_le hpos).mpr (hp ▸ hlo)
    have hq2 : n / 2 ^ (n.log2 - 52) < 2 ^ 53 := by
      rw [Nat.div_lt_iff_lt_mul hpos]
      calc n < 2 ^ (n.log2 + 1) := hhi
        _ = 2 ^ 53 * 2 ^ (n.log2 - 52) := by
          rw [← pow_add]
          congr 1
          omega
    rcases roundShift_cases n (n.log2 - 52) with h | h <;> rw [h] <;> omega

/-- The value of the double `wordToFloat` builds is the word rounded to 53 bits. -/
theorem roundedSignificand_value (n : Nat) :
    roundShift (n <<< (52 - n.log2)) (n.log2 - 52) * 2 ^ n.log2 / 2 ^ 52 = nearest53 n := by
  rw [nearest53_eq, Nat.shiftLeft_eq]
  by_cases hlen : n.log2 ≤ 52
  · -- exact: the word was shifted up by what the exponent takes back
    have hs : n.log2 - 52 = 0 := by omega
    have hp : 2 ^ (52 - n.log2) * 2 ^ n.log2 = 2 ^ 52 := by
      rw [← pow_add, Nat.sub_add_cancel hlen]
    rw [hs, roundShift_zero, roundShift_zero, Nat.mul_assoc, hp,
      Nat.mul_div_cancel _ (by positivity), pow_zero, Nat.mul_one]
  · -- rounded: the kept bits scaled back up past the ones cut
    have hs : 52 - n.log2 = 0 := by omega
    have hp : 2 ^ n.log2 = 2 ^ (n.log2 - 52) * 2 ^ 52 := by
      rw [← pow_add, Nat.sub_add_cancel (by omega)]
    rw [hs, pow_zero, Nat.mul_one, hp, ← Nat.mul_assoc, Nat.mul_div_cancel _ (by positivity)]

/-- Of the doubles `wordToFloat` builds, only one whose leading bit is at 63 and whose rounding
carried is `2 ^ 64`. -/
theorem roundedValue_eq_two_pow_64_iff {len sig : Nat} (hlen : len ≤ 63) (hhi : sig ≤ 2 ^ 53) :
    sig * 2 ^ len / 2 ^ 52 = 2 ^ 64 ↔ len = 63 ∧ sig = 2 ^ 53 := by
  constructor
  · intro h
    by_contra hne
    have hlt : sig * 2 ^ len < 2 ^ 53 * 2 ^ 63 := by
      rcases Nat.lt_or_ge len 63 with hl | hl
      · calc sig * 2 ^ len ≤ 2 ^ 53 * 2 ^ len := Nat.mul_le_mul_right _ hhi
          _ < 2 ^ 53 * 2 ^ 63 :=
            Nat.mul_lt_mul_of_pos_left (Nat.pow_lt_pow_right (by decide) hl) (by positivity)
      · have hl' : len = 63 := by omega
        have hs : sig < 2 ^ 53 := lt_of_le_of_ne hhi fun h => hne ⟨hl', h⟩
        rw [hl']
        exact Nat.mul_lt_mul_of_pos_right hs (by positivity)
    have hval : sig * 2 ^ len / 2 ^ 52 < 2 ^ 64 := by
      rw [Nat.div_lt_iff_lt_mul (by positivity)]
      calc sig * 2 ^ len < 2 ^ 53 * 2 ^ 63 := hlt
        _ = 2 ^ 64 * 2 ^ 52 := by norm_num
    omega
  · rintro ⟨rfl, rfl⟩
    norm_num

/-- What an epoch reads back as: the word rounded to its nearest double and cut back to an
integer; a rounding that reaches `2 ^ 64` is out of range and gives `2 ^ 63`. -/
theorem truncWord_wordToFloat (e : UInt64) :
    truncWord (wordToFloat e) =
      if nearest53 e.toNat = 2 ^ 64 then 0x8000000000000000
      else UInt64.ofNat (nearest53 e.toNat) := by
  by_cases he : e = 0
  · subst he
    decide
  have hn : e.toNat ≠ 0 := fun h => he (UInt64.toNat_inj.mp (by simpa using h))
  have hlen : e.toNat.log2 ≤ 63 := Nat.lt_succ_iff.mp ((Nat.log2_lt hn).mpr e.toNat_lt)
  obtain ⟨hlo, hhi⟩ := roundedSignificand_bounds hn
  unfold wordToFloat
  rw [if_neg he]
  dsimp only
  rw [truncWord_ofBits_normal hlen hlo hhi, ← roundedSignificand_value]
  simp only [roundedValue_eq_two_pow_64_iff hlen hhi]

/-- The rounding of a word stays within `2 ^ 64`. -/
theorem nearest53_le (e : UInt64) : nearest53 e.toNat ≤ 2 ^ 64 := by
  by_cases hn : e.toNat = 0
  · rw [hn]
    decide
  have hlen : e.toNat.log2 ≤ 63 := Nat.lt_succ_iff.mp ((Nat.log2_lt hn).mpr e.toNat_lt)
  obtain ⟨-, hhi⟩ := roundedSignificand_bounds hn
  rw [← roundedSignificand_value, Nat.div_le_iff_le_mul_add_pred (by positivity)]
  calc _ ≤ 2 ^ 53 * 2 ^ 63 := Nat.mul_le_mul hhi (Nat.pow_le_pow_right (by decide) hlen)
    _ ≤ 2 ^ 64 * 2 ^ 52 + (2 ^ 52 - 1) := by norm_num

/-- An epoch reads back unchanged exactly when its bits below the 53 leading ones are clear; in
particular every epoch below `2 ^ 53` does. -/
theorem truncWord_wordToFloat_eq_self_iff (e : UInt64) :
    truncWord (wordToFloat e) = e ↔ e.toNat % 2 ^ (e.toNat.log2 - 52) = 0 := by
  have hlt := e.toNat_lt
  rw [truncWord_wordToFloat, ← nearest53_eq_self_iff]
  split
  · -- a rounding to `2 ^ 64` moved the word, and `2 ^ 63` is not such a word
    rename_i hover
    constructor
    · intro h
      have htop : nearest53 (2 ^ 63) = 2 ^ 63 := by
        rw [nearest53_eq_self_iff, Nat.log2_two_pow]
        norm_num
      rw [← h] at hover
      exact absurd (htop.symm.trans hover) (by norm_num)
    · intro h
      omega
  · rename_i hover
    have hle := nearest53_le e
    have hval : (UInt64.ofNat (nearest53 e.toNat)).toNat = nearest53 e.toNat := by
      rw [UInt64.toNat_ofNat']
      exact Nat.mod_eq_of_lt (by omega)
    constructor
    · intro h
      rw [← hval, h]
    · intro h
      rw [h, UInt64.ofNat_toNat]

/-! ## Records of scalar values -/

namespace Protobuf

theorem messageTag_tag (num : Nat) (t : WireType) (h1 : 1 ≤ num) (h2 : num ≤ maxFieldNumber)
    (ht : t ≠ .endGroup) (rest : Bytes) :
    messageTag (tag num t ++ rest) = .ok ((num, t), rest) := by
  have hmax : maxFieldNumber ≤ maxTagNumber := by decide
  unfold messageTag
  rw [readTag_tag num t h1 (by omega) rest]
  simp [wireStep, bind, Except.bind, pure, Except.pure, ht]
  omega

theorem tag_append_ne_nil (num : Nat) (t : WireType) (rest : Bytes) : tag num t ++ rest ≠ [] := by
  simp [tag, varint_ne_nil]

theorem bytesField_append_ne_nil (num : Nat) (body rest : Bytes) :
    bytesField num body ++ rest ≠ [] := by
  simp [bytesField, tag, varint_ne_nil]

/-- The bytes of a string read back as the string. -/
theorem readText_encode (s : String) (rest : Bytes) (hlen : (Utf8.encode s).length < 2 ^ 64) :
    readText (varint (Utf8.encode s).length ++ (Utf8.encode s ++ rest)) = .ok (s, rest) := by
  simp [readText, wireStep, readBytes_bytes _ _ hlen, bind, Except.bind, Utf8.valid_encode,
    Utf8.decodeLossy_encode, pure, Except.pure]

theorem bytesField_length (num : Nat) (body : Bytes) :
    (bytesField num body).length = (tag num .bytes).length + (varint body.length).length +
      body.length := by
  simp only [bytesField, List.length_append]

/-- A field holding a body takes at least two bytes more than the body. -/
theorem length_add_two_le_bytesField (num : Nat) (body : Bytes) :
    body.length + 2 ≤ (bytesField num body).length := by
  have ht := List.length_pos_of_ne_nil (varint_ne_nil (num * 8 + WireType.bytes.code))
  have hv := List.length_pos_of_ne_nil (varint_ne_nil body.length)
  rw [bytesField_length, tag]
  omega

/-- A field holding a body whose length fits a varint takes at most eleven bytes more. -/
theorem bytesField_length_le (num : Nat) (h : num < 16) (body : Bytes)
    (hb : body.length < 2 ^ 64) : (bytesField num body).length ≤ body.length + 11 := by
  have hv := varint_length_le 9 body.length (by norm_num; omega)
  rw [bytesField_length, tag_length num .bytes h]
  omega

section Readers

variable {fuel budget : Nat}

theorem valueMessage_succ (v : Value) (bs : Bytes) :
    valueMessage (fuel + 1) (budget + 1) v bs = valueFields fuel budget v bs := by
  rw [valueMessage]

theorem structMessage_succ (acc : Struct) (bs : Bytes) :
    structMessage (fuel + 1) (budget + 1) acc bs = structFields fuel budget acc bs := by
  rw [structMessage]

theorem valueFields_nil (v : Value) : valueFields (fuel + 1) budget v [] = .ok v := by
  rw [valueFields.eq_def]

theorem valueFields_null (v : Value) (rest : Bytes) :
    valueFields (fuel + 1) budget v (tag 1 .varint ++ [0] ++ rest) =
      valueFields fuel budget .null rest := by
  rw [valueFields.eq_def]
  dsimp only
  split
  · rename_i h
    exact absurd h (List.append_assoc .. ▸ tag_append_ne_nil _ _ _)
  · rw [List.append_assoc, messageTag_tag 1 .varint (by decide) (by decide) (by decide)]
    have h0 : readVarint (0 :: rest) = .ok (0, rest) := by
      simpa [varint_eq] using readVarint_varint 0 (by norm_num) rest
    simp [bind, Except.bind, wireStep, h0]

theorem valueFields_number (v : Value) (x : Float) (rest : Bytes) :
    valueFields (fuel + 1) budget v (tag 2 .fixed64 ++ fixed64 x.toBits ++ rest) =
      valueFields fuel budget (.number x) rest := by
  rw [valueFields.eq_def]
  dsimp only
  split
  · rename_i h
    exact absurd h (List.append_assoc .. ▸ tag_append_ne_nil _ _ _)
  · rw [List.append_assoc, messageTag_tag 2 .fixed64 (by decide) (by decide) (by decide)]
    simp [bind, Except.bind, wireStep, readFixed64_fixed64, Float.ofBits_toBits]

theorem valueFields_text (v : Value) (s : String) (rest : Bytes)
    (hlen : (Utf8.encode s).length < 2 ^ 64) :
    valueFields (fuel + 1) budget v (bytesField 3 (Utf8.encode s) ++ rest) =
      valueFields fuel budget (.text s) rest := by
  rw [valueFields.eq_def]
  dsimp only
  split
  · rename_i h
    exact absurd h (bytesField_append_ne_nil _ _ _)
  · rw [bytesField, List.append_assoc, List.append_assoc,
      messageTag_tag 3 .bytes (by decide) (by decide) (by decide)]
    simp [bind, Except.bind, readText_encode s rest hlen]

theorem valueFields_flag (v : Value) (b : Bool) (rest : Bytes) :
    valueFields (fuel + 1) budget v (tag 4 .varint ++ [if b then 1 else 0] ++ rest) =
      valueFields fuel budget (.flag b) rest := by
  rw [valueFields.eq_def]
  dsimp only
  split
  · rename_i h
    exact absurd h (List.append_assoc .. ▸ tag_append_ne_nil _ _ _)
  · rw [List.append_assoc, messageTag_tag 4 .varint (by decide) (by decide) (by decide)]
    have h0 : readVarint (0 :: rest) = .ok (0, rest) := by
      simpa [varint_eq] using readVarint_varint 0 (by norm_num) rest
    have h1 : readVarint (1 :: rest) = .ok (1, rest) := by
      simpa [varint_eq] using readVarint_varint 1 (by norm_num) rest
    cases b <;> simp [bind, Except.bind, wireStep, h0, h1]

theorem entryFields_nil (e : String × Value) : entryFields (fuel + 1) budget e [] = .ok e := by
  rw [entryFields.eq_def]

theorem entryFields_key (e : String × Value) (k : String) (rest : Bytes)
    (hlen : (Utf8.encode k).length < 2 ^ 64) :
    entryFields (fuel + 1) budget e (bytesField 1 (Utf8.encode k) ++ rest) =
      entryFields fuel budget (k, e.2) rest := by
  rw [entryFields.eq_def]
  dsimp only
  split
  · rename_i h
    exact absurd h (bytesField_append_ne_nil _ _ _)
  · rw [bytesField, List.append_assoc, List.append_assoc,
      messageTag_tag 1 .bytes (by decide) (by decide) (by decide)]
    simp [bind, Except.bind, readText_encode k rest hlen]

theorem entryFields_value (e : String × Value) (body rest : Bytes) (hlen : body.length < 2 ^ 64) :
    entryFields (fuel + 1) budget e (bytesField 2 body ++ rest) =
      (do let v ← valueMessage fuel budget e.2 body; entryFields fuel budget (e.1, v) rest) := by
  rw [entryFields.eq_def]
  dsimp only
  split
  · rename_i h
    exact absurd h (bytesField_append_ne_nil _ _ _)
  · rw [bytesField, List.append_assoc, List.append_assoc,
      messageTag_tag 2 .bytes (by decide) (by decide) (by decide)]
    simp [bind, Except.bind, wireStep, readBytes_bytes _ _ hlen]

theorem structFields_nil (acc : Struct) : structFields (fuel + 1) budget acc [] = .ok acc := by
  rw [structFields.eq_def]

theorem structFields_entry (acc : Struct) (body rest : Bytes) (hlen : body.length < 2 ^ 64) :
    structFields (fuel + 1) budget acc (bytesField 1 body ++ rest) =
      (do
        let e ← entryFields fuel budget ("", .unset) body
        structFields fuel budget (acc ++ [e]) rest) := by
  rw [structFields.eq_def]
  dsimp only
  split
  · rename_i h
    exact absurd h (bytesField_append_ne_nil _ _ _)
  · rw [bytesField, List.append_assoc, List.append_assoc,
      messageTag_tag 1 .bytes (by decide) (by decide) (by decide)]
    simp [bind, Except.bind, wireStep, readBytes_bytes _ _ hlen]

end Readers

/-- A value holding no record or list: no kind, null, a number, a string or a boolean. -/
def Value.isScalar : Value → Bool
  | .record _ | .list _ => false
  | _ => true

section Scalars

variable {fuel budget : Nat}

/-- A scalar value message reads back as the value: one field, or none for no kind. -/
theorem valueFields_encode (v : Value) (hv : v.isScalar = true)
    (hlen : v.encode.length < 2 ^ 64) :
    valueFields (fuel + 2) budget .unset v.encode = .ok v := by
  cases v with
  | unset => exact valueFields_nil _
  | null =>
    rw [Value.encode, ← List.append_nil (tag 1 .varint ++ [0]), valueFields_null, valueFields_nil]
  | number x =>
    rw [Value.encode, ← List.append_nil (tag 2 .fixed64 ++ _), valueFields_number,
      valueFields_nil]
  | text s =>
    rw [Value.encode] at hlen ⊢
    have hs := length_add_two_le_bytesField 3 (Utf8.encode s)
    rw [← List.append_nil (bytesField 3 _), valueFields_text _ _ _ (by omega), valueFields_nil]
  | flag b =>
    rw [Value.encode, ← List.append_nil (tag 4 .varint ++ _), valueFields_flag, valueFields_nil]
  | record fs => cases hv
  | list xs => cases hv

/-- The bytes of one entry: its key, then its value. -/
def entryBody (k : String) (v : Value) : Bytes :=
  bytesField 1 (Utf8.encode k) ++ bytesField 2 v.encode

/-- An entry of a scalar value reads back as the key and the value. -/
theorem entryFields_encode (k : String) (v : Value) (hv : v.isScalar = true)
    (hlen : (entryBody k v).length < 2 ^ 64) :
    entryFields (fuel + 5) (budget + 1) ("", .unset) (entryBody k v) = .ok (k, v) := by
  have hk := length_add_two_le_bytesField 1 (Utf8.encode k)
  have hb := length_add_two_le_bytesField 2 v.encode
  unfold entryBody at hlen ⊢
  rw [List.length_append] at hlen
  rw [entryFields_key _ _ _ (by omega), ← List.append_nil (bytesField 2 _),
    entryFields_value _ _ _ (by omega)]
  dsimp only
  rw [valueMessage_succ, valueFields_encode v hv (by omega)]
  exact entryFields_nil _

theorem encodeEntries_cons (k : String) (v : Value) (st : Struct) :
    Struct.encodeEntries ((k, v) :: st) = bytesField 1 (entryBody k v) ++ Struct.encodeEntries st := by
  rw [Struct.encodeEntries, entryBody]

/-- Every entry takes at least six bytes: its own field's and its key's and value's tags and
lengths. -/
theorem length_le_encodeEntries (st : Struct) : 6 * st.length ≤ (Struct.encodeEntries st).length := by
  induction st with
  | nil => simp [Struct.encodeEntries]
  | cons e st ih =>
    obtain ⟨k, v⟩ := e
    have he := length_add_two_le_bytesField 1 (entryBody k v)
    have hbody : 4 ≤ (entryBody k v).length := by
      have hk := length_add_two_le_bytesField 1 (Utf8.encode k)
      have hb := length_add_two_le_bytesField 2 v.encode
      rw [entryBody, List.length_append]
      omega
    rw [encodeEntries_cons, List.length_append, List.length_cons]
    omega

/-- The entries of a record of scalar values read back in order after those read before. The
fuel runs down one step an entry, and each entry needs five. -/
theorem structFields_encodeEntries (st : Struct) (hst : ∀ e ∈ st, e.2.isScalar = true)
    (acc : Struct) (hfuel : 5 * st.length + 1 ≤ fuel)
    (hlen : (Struct.encodeEntries st).length < 2 ^ 64) :
    structFields fuel (budget + 1) acc (Struct.encodeEntries st) = .ok (acc ++ st) := by
  induction st generalizing acc fuel with
  | nil =>
    obtain ⟨f, rfl⟩ : ∃ f, fuel = f + 1 := ⟨fuel - 1, by omega⟩
    rw [Struct.encodeEntries, structFields_nil, List.append_nil]
  | cons e st ih =>
    obtain ⟨k, v⟩ := e
    obtain ⟨f, rfl⟩ : ∃ f, fuel = f + 5 + 1 := ⟨fuel - 6, by simp at hfuel; omega⟩
    have he := length_add_two_le_bytesField 1 (entryBody k v)
    rw [encodeEntries_cons, List.length_append] at hlen
    rw [encodeEntries_cons, structFields_entry _ _ _ (by omega),
      entryFields_encode k v (hst _ List.mem_cons_self) (by omega)]
    dsimp only [bind, Except.bind]
    rw [ih (fun e he => hst e (List.mem_cons_of_mem _ he)) _ (by simp at hfuel; omega) (by omega)]
    simp

/-- **Records of scalar values read back.** A record whose values are all scalar, written with
fewer than `2 ^ 64` bytes, reads back as itself, its entries in order. -/
theorem Struct.decode_encode (st : Struct) (hst : ∀ e ∈ st, e.2.isScalar = true)
    (hlen : (Struct.encode st).length < 2 ^ 64) : Struct.decode (Struct.encode st) = .ok st := by
  have hsix := length_le_encodeEntries st
  unfold Struct.decode
  rw [show 2 * (Struct.encode st).length + 4 = 2 * (Struct.encode st).length + 3 + 1 from rfl,
    show messageDepth = 9998 + 1 + 1 from rfl, structMessage_succ, Struct.encode,
    structFields_encodeEntries st hst [] (by omega) hlen, List.nil_append]

/-- An entry takes at most thirty-three bytes more than its key and its value. -/
theorem entry_length_le (k : String) (v : Value)
    (h : (Utf8.encode k).length + v.encode.length + 22 < 2 ^ 64) :
    (bytesField 1 (entryBody k v)).length ≤ (Utf8.encode k).length + v.encode.length + 33 := by
  have hk := bytesField_length_le 1 (by decide) (Utf8.encode k) (by omega)
  have hv := bytesField_length_le 2 (by decide) v.encode (by omega)
  have hb : (entryBody k v).length ≤ (Utf8.encode k).length + v.encode.length + 22 := by
    rw [entryBody, List.length_append]
    omega
  have he := bytesField_length_le 1 (by decide) (entryBody k v) (by omega)
  omega

end Scalars

end Protobuf

/-! ## Status reports -/

open Protobuf

/-- The record of a report whose name is UTF-8. -/
def Status.record (s : Status) : Struct :=
  [("integrator", .text (Utf8.decodeLossy s.integrator)), ("paused", .flag s.paused),
    ("time_scale", .number s.timeScale), ("epoch", .number (wordToFloat s.epoch))]

theorem Status.toStruct_of_valid {s : Status} (h : Utf8.valid s.integrator = true) :
    s.toStruct = .ok s.record := by
  rw [Status.toStruct, if_pos h, Status.record]

theorem Status.record_scalar (s : Status) : ∀ e ∈ s.record, e.2.isScalar = true := by
  simp [Status.record, Value.isScalar]

/-- A report's record takes at most two hundred bytes more than its integrator name. -/
theorem Status.record_length_lt {s : Status} (hvalid : Utf8.valid s.integrator = true)
    (hlen : s.integrator.length < 2 ^ 63) : (Struct.encode s.record).length < 2 ^ 64 := by
  have h63 : (2 : Nat) ^ 63 = 9223372036854775808 := by norm_num
  have h64 : (2 : Nat) ^ 64 = 18446744073709551616 := by norm_num
  have ht : (Value.text (Utf8.decodeLossy s.integrator)).encode.length ≤ s.integrator.length + 11 := by
    rw [Value.encode, Utf8.encode_decodeLossy hvalid]
    exact bytesField_length_le 3 (by decide) _ (by omega)
  have hf : (Value.flag s.paused).encode.length = 2 := by
    rw [Value.encode, List.length_append, tag_length 4 .varint (by decide)]
    rfl
  have hn (x : Float) : (Value.number x).encode.length = 9 := by
    rw [Value.encode, List.length_append, tag_length 2 .fixed64 (by decide), fixed64_length]
  have k1 : (Utf8.encode "integrator").length = 10 := by decide +kernel
  have k2 : (Utf8.encode "paused").length = 6 := by decide +kernel
  have k3 : (Utf8.encode "time_scale").length = 10 := by decide +kernel
  have k4 : (Utf8.encode "epoch").length = 5 := by decide +kernel
  have e1 := entry_length_le "integrator" (.text (Utf8.decodeLossy s.integrator)) (by omega)
  have e2 := entry_length_le "paused" (.flag s.paused) (by omega)
  have e3 := entry_length_le "time_scale" (.number s.timeScale) (by rw [hn]; omega)
  have e4 := entry_length_le "epoch" (.number (wordToFloat s.epoch)) (by rw [hn]; omega)
  rw [Status.record, Struct.encode, encodeEntries_cons, encodeEntries_cons, encodeEntries_cons,
    encodeEntries_cons, Struct.encodeEntries]
  simp only [List.length_append, List.length_nil]
  rw [hn] at e3 e4
  omega

/-- A report read from its record: the name's bytes, the flag, the time scale, and the epoch
through a double. -/
theorem Status.ofStruct_record {s : Status} (hvalid : Utf8.valid s.integrator = true) :
    Status.ofStruct s.record =
      ⟨s.integrator, s.paused, s.timeScale, truncWord (wordToFloat s.epoch)⟩ := by
  simp [Status.ofStruct, Status.record, Struct.get?, Utf8.encode_decodeLossy hvalid]

/-- A report whose name is UTF-8 is written, and reads back with its epoch converted to a double
and back. -/
theorem Status.decode_encode_eq (s : Status) (hvalid : Utf8.valid s.integrator = true)
    (hlen : s.integrator.length < 2 ^ 63) :
    ∃ bs, s.encode = .ok bs ∧
      Status.decode bs = .ok { s with epoch := truncWord (wordToFloat s.epoch) } := by
  refine ⟨Struct.encode s.record, ?_, ?_⟩
  · rw [Status.encode, Status.toStruct_of_valid hvalid]
    rfl
  · rw [Status.decode, Struct.decode_encode _ s.record_scalar (Status.record_length_lt hvalid hlen)]
    dsimp only
    rw [Status.ofStruct_record hvalid]

/-- **Status reports read back, the epoch rounded.** A report whose integrator name is UTF-8 is
written, and reads back with its name, pause flag and time scale as they were and its epoch
rounded to 53 significant bits (`nearest53`), `2 ^ 63` where the rounding reaches `2 ^ 64`. It
reads back as itself exactly when the epoch's bits below its 53 leading ones are clear. -/
theorem status_reads_back_with_rounded_epoch (s : Status) (hvalid : Utf8.valid s.integrator = true)
    (hlen : s.integrator.length < 2 ^ 63) :
    ∃ bs, s.encode = .ok bs ∧
      Status.decode bs = .ok { s with
        epoch := if nearest53 s.epoch.toNat = 2 ^ 64 then 0x8000000000000000
          else UInt64.ofNat (nearest53 s.epoch.toNat) } ∧
      (Status.decode bs = .ok s ↔ s.epoch.toNat % 2 ^ (s.epoch.toNat.log2 - 52) = 0) := by
  obtain ⟨bs, henc, hdec⟩ := Status.decode_encode_eq s hvalid hlen
  refine ⟨bs, henc, by rw [hdec, truncWord_wordToFloat], ?_⟩
  rw [hdec, ← truncWord_wordToFloat_eq_self_iff]
  cases s
  simp

theorem euler_status_reads_back_unchanged :
    ∃ bs, Status.encode ⟨Utf8.encode "euler", false, 1.0, 4⟩ = .ok bs ∧
      Status.decode bs = .ok ⟨Utf8.encode "euler", false, 1.0, 4⟩ := by
  obtain ⟨bs, henc, -, hiff⟩ := status_reads_back_with_rounded_epoch
    ⟨Utf8.encode "euler", false, 1.0, 4⟩ (Utf8.valid_encode _) (by decide +kernel)
  exact ⟨bs, henc, hiff.mpr (by decide)⟩

/-- The epoch `2 ^ 53 + 1` has a bit set below its 53 leading ones: it reads back as `2 ^ 53`. -/
theorem status_epoch_two_pow_53_succ_reads_back_rounded :
    ((Status.encode ⟨Utf8.encode "euler", false, 1.0, 9007199254740993⟩).toOption.bind
      fun bs => (Status.decode bs).toOption.map (·.epoch)) = some 9007199254740992 := by
  obtain ⟨bs, henc, hdec⟩ := Status.decode_encode_eq ⟨Utf8.encode "euler", false, 1.0, 9007199254740993⟩
    (Utf8.valid_encode _) (by decide +kernel)
  rw [henc, Except.toOption, Option.bind_some, hdec]
  decide

end CrowdSim
