import Mathlib
import CrowdSim.Broadcast.Frame

/-!
# The wire format reads back what it writes

Each reader of the wire format takes back what the matching writer wrote, with the bytes after it
left for the next reader:

* `readVarint_varint`: a varint of a natural below `2 ^ 64`; the induction follows the writer,
  seven bits a byte, and carries how far up the bits read so far reach;
* `readTag_tag`: a tag, for every field number a tag may carry and every wire type;
* `readFixed64_fixed64`: an eight-byte word;
* `readBytes_bytes`: a length-prefixed byte string whose length fits a varint.
-/

namespace CrowdSim

namespace Protobuf

/-- One step of the varint writer: the low seven bits, flagged when more follow. -/
theorem varint_eq (n : Nat) :
    varint n = if n < 0x80 then [UInt8.ofNat n]
      else UInt8.ofNat (n % 0x80 + 0x80) :: varint (n / 0x80) := by
  rw [varint]

theorem varint_one : varint 1 = [1] := by
  rw [varint_eq]
  rfl

theorem varint_ne_nil (n : Nat) : varint n ≠ [] := by
  rw [varint_eq]
  split <;> simp

/-- A natural below `2 ^ (7 * (k + 1))` takes at most `k + 1` bytes. -/
theorem varint_length_le (k : Nat) :
    ∀ n, n < 2 ^ (7 * (k + 1)) → (varint n).length ≤ k + 1 := by
  induction k with
  | zero =>
    intro n h
    rw [varint_eq, if_pos (by omega)]
    simp
  | succ k ih =>
    intro n h
    rw [varint_eq]
    split
    · simp
    · have hpow : 2 ^ (7 * (k + 1 + 1)) = 2 ^ (7 * (k + 1)) * 0x80 := by
        rw [show 7 * (k + 1 + 1) = 7 * (k + 1) + 7 by omega, Nat.pow_add]
      have := ih (n / 0x80) (by rw [Nat.div_lt_iff_lt_mul (by decide)]; omega)
      simp only [List.length_cons]
      omega

/-- The reader takes back what the writer wrote from byte `i` on: the value lands `7 * i` bits
up, above the bits already read, and the bytes after it are left. -/
theorem readVarintFrom_varint (rest : Bytes) (n : Nat) :
    ∀ i acc, i ≤ 9 → n < 2 ^ (64 - 7 * i) →
      readVarintFrom i acc (varint n ++ rest) =
        .ok (UInt64.ofNat (acc + n * 2 ^ (7 * i)), rest) := by
  induction n using Nat.strong_induction_on with
  | _ n ih =>
  intro i acc hi hn
  rw [varint_eq]
  by_cases hsmall : n < 0x80
  · rw [if_pos hsmall]
    have hb : (UInt8.ofNat n).toNat = n := by simp; omega
    by_cases hlast : i ≥ 9
    · have hi9 : i = 9 := by omega
      subst hi9
      have h2 : n < 2 := by simpa using hn
      simp [readVarintFrom, hb, h2]
    · simp [readVarintFrom, hb, hlast, hsmall]
  · rw [if_neg hsmall]
    have hb : (UInt8.ofNat (n % 0x80 + 0x80)).toNat = n % 0x80 + 0x80 := by
      simp [UInt8.toNat_ofNat]; omega
    have hi8 : i < 9 := by
      by_contra h
      have hi9 : i = 9 := by omega
      subst hi9
      have : n < 2 := by simpa using hn
      omega
    have hpow : 2 ^ (64 - 7 * i) = 2 ^ (64 - 7 * (i + 1)) * 0x80 := by
      rw [show 64 - 7 * i = 64 - 7 * (i + 1) + 7 by omega, Nat.pow_add]
    have hnext : n / 0x80 < 2 ^ (64 - 7 * (i + 1)) := by
      rw [Nat.div_lt_iff_lt_mul (by decide)]; omega
    have hrec := ih (n / 0x80) (Nat.div_lt_self (by omega) (by decide)) (i + 1)
      (acc + n % 0x80 * 2 ^ (7 * i)) (by omega) hnext
    simp only [List.cons_append, readVarintFrom, hb, show ¬ i ≥ 9 by omega,
      show ¬ n % 0x80 + 0x80 < 0x80 by omega, if_false, Nat.add_sub_cancel, Nat.pow_eq]
    rw [hrec]
    congr 3
    rw [show 7 * (i + 1) = 7 * i + 7 by omega, Nat.pow_add]
    conv_rhs => rw [← Nat.mod_add_div n 0x80]
    ring

/-- **Varints read back.** A natural below `2 ^ 64` written as a varint reads back, with the bytes
after it left. -/
theorem readVarint_varint (n : Nat) (h : n < 2 ^ 64) (rest : Bytes) :
    readVarint (varint n ++ rest) = .ok (UInt64.ofNat n, rest) := by
  simpa [readVarint] using readVarintFrom_varint rest n 0 0 (by omega) (by simpa using h)

theorem readVarint_varint_word (w : UInt64) (rest : Bytes) :
    readVarint (varint w.toNat ++ rest) = .ok (w, rest) := by
  rw [readVarint_varint _ w.toNat_lt rest, UInt64.ofNat_toNat]

/-- The wire type of a tag whose low three bits are a type's code is that type. -/
theorem WireType.ofCode_mul_add (m : Nat) (t : WireType) :
    WireType.ofCode (m * 8 + t.code) = t := by
  cases t <;> simp [WireType.ofCode, WireType.code, Nat.add_mod]

theorem WireType.code_lt (t : WireType) : t.code < 8 := by
  cases t <;> simp [WireType.code]

/-- **Tags read back**, for every field number a tag may carry. -/
theorem readTag_tag (num : Nat) (t : WireType) (h1 : 1 ≤ num) (h2 : num ≤ maxTagNumber)
    (rest : Bytes) : readTag (tag num t ++ rest) = .ok ((num, t), rest) := by
  have hc := t.code_lt
  have hmax : maxTagNumber = 2 ^ 31 - 1 := by simp [maxTagNumber]
  have hlt : num * 8 + t.code < 2 ^ 64 := by omega
  have hval : (UInt64.ofNat (num * 8 + t.code)).toNat = num * 8 + t.code := by
    rw [UInt64.toNat_ofNat']; exact Nat.mod_eq_of_lt hlt
  have hdiv : (num * 8 + t.code) / 8 = num := by omega
  rw [readTag, tag, readVarint_varint _ hlt]
  simp only [bind, Except.bind, hval, hdiv, WireType.ofCode_mul_add]
  rw [if_neg (by simp; omega)]
  rfl

/-- The bytes of a word, least significant first, fold back to the word. -/
theorem fixed64_foldr (w : UInt64) :
    (fixed64 w).foldr (fun b acc => b.toNat + 256 * acc) 0 = w.toNat := by
  have := w.toNat_lt
  simp [fixed64, List.range_succ]
  omega

@[simp] theorem fixed64_length (w : UInt64) : (fixed64 w).length = 8 := by
  simp [fixed64]

/-- **Eight-byte words read back.** -/
theorem readFixed64_fixed64 (w : UInt64) (rest : Bytes) :
    readFixed64 (fixed64 w ++ rest) = .ok (w, rest) := by
  simp [readFixed64, readLittle, fixed64_foldr, bind, Except.bind, pure, Except.pure]

/-- **Byte strings read back**, when their length fits a varint. -/
theorem readBytes_bytes (body rest : Bytes) (h : body.length < 2 ^ 64) :
    readBytes (varint body.length ++ (body ++ rest)) = .ok (body, rest) := by
  have hlen : (UInt64.ofNat body.length).toNat = body.length := by
    rw [UInt64.toNat_ofNat']; exact Nat.mod_eq_of_lt h
  simp [readBytes, readVarint_varint _ h, bind, Except.bind, hlen, pure, Except.pure]

end Protobuf

end CrowdSim
