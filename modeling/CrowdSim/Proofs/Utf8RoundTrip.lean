import Mathlib
import CrowdSim.Text.Utf8

/-!
# UTF-8 reads back what strings write

`Utf8.encode` writes the characters of a string as the bytes of RFC 3629, and `Utf8.decodeLossy`
reads bytes as characters. On well-formed bytes the two are inverse:

* `Utf8.decodeLossy_encode`, `Utf8.valid_encode`: the bytes of a string are well formed and read
  back as the string;
* `Utf8.encode_decodeLossy`: well-formed bytes are the bytes of the text they read as;
* `Utf8.valid_iff_exists_encode`: so the well-formed byte sequences are exactly the bytes of
  strings.

Both directions go one character at a time. A character's bytes start with a lead byte that
`lead?` reads back as the character, taking all of its continuation bytes
(`Utf8.lead_encodeChar`); and whatever `lead?` reads is written back as the bytes it took
(`Utf8.encodeChar_of_lead`), because the ranges `lead?` allows after each lead byte leave out
exactly the overlong forms, the surrogates and the code points past U+10FFFF.
-/

namespace CrowdSim

/-! ## The bytes of a byte array -/

theorem byteArray_toList_loop (bs : ByteArray) (i : Nat) (r : List UInt8) :
    ByteArray.toList.loop bs i r = r.reverse ++ bs.data.toList.drop i := by
  fun_induction ByteArray.toList.loop bs i r with
  | case1 i r h ih =>
    have hi : i < bs.data.toList.length := by simpa using h
    rw [ih, List.drop_eq_getElem_cons (l := bs.data.toList) hi]
    simp [ByteArray.get!, h]
  | case2 i r h =>
    rw [List.drop_eq_nil_of_le (by simpa using Nat.le_of_not_lt h)]
    simp

theorem toByteArray_loop_data (l : List UInt8) (r : ByteArray) :
    (List.toByteArray.loop l r).data.toList = r.data.toList ++ l := by
  induction l generalizing r with
  | nil => simp [List.toByteArray.loop]
  | cons b l ih => simp [List.toByteArray.loop, ih, ByteArray.data_push]

theorem toList_toByteArray (l : List UInt8) : l.toByteArray.toList = l := by
  rw [ByteArray.toList, byteArray_toList_loop]
  simp [List.toByteArray, toByteArray_loop_data]

namespace Utf8

/-! ## Bytes and code points -/

theorem toNat_byte {x : Nat} (h : x < 256) : (UInt8.ofNat x).toNat = x :=
  UInt8.toNat_ofNat_of_lt' h

theorem byte_eq {x : Nat} {b : UInt8} (h : x = b.toNat) : UInt8.ofNat x = b := by
  rw [h, UInt8.ofNat_toNat]

theorem val_toNat_ofNat {v : Nat} (hv : v.isValidChar) : (Char.ofNat v).val.toNat = v := by
  show (Char.ofNat v).toNat = v
  rw [Char.toNat_ofNat, if_pos hv]

theorem continuation_iff {b : UInt8} :
    continuation b = true ↔ 0x80 ≤ b.toNat ∧ b.toNat ≤ 0xBF := by
  simp [continuation, within]

theorem continuation_byte (v : Nat) : continuation (UInt8.ofNat (v % 64 + 128)) = true := by
  rw [continuation_iff, toNat_byte (by omega)]
  omega

theorem payload_byte (v : Nat) : payload (UInt8.ofNat (v % 64 + 128)) = v % 64 := by
  have h := toNat_byte (show v % 64 + 128 < 256 by omega)
  unfold payload
  rw [h]
  omega

/-- The first continuation byte in the range a lead byte allows: a continuation byte, narrowed
after `E0`, `ED`, `F0` and `F4`. -/
theorem secondRange_bounds {n : Nat} {b : UInt8}
    (h : within (secondRange n).1 (secondRange n).2 b = true) :
    0x80 ≤ b.toNat ∧ b.toNat ≤ 0xBF ∧ (n = 0xE0 → 0xA0 ≤ b.toNat) ∧ (n = 0xED → b.toNat ≤ 0x9F) ∧
      (n = 0xF0 → 0x90 ≤ b.toNat) ∧ (n = 0xF4 → b.toNat ≤ 0x8F) := by
  unfold within secondRange at h
  split_ifs at h <;> simp only [beq_iff_eq, Bool.and_eq_true, decide_eq_true_eq] at * <;> omega

/-- The first continuation byte of a three-byte character lies in the range its lead byte
allows: not overlong after `E0`, not a surrogate after `ED`. -/
theorem secondRange_three {v : Nat} (hlo : 2047 < v) (hhi : v ≤ 65535)
    (hv : v < 0xD800 ∨ 0xDFFF < v) :
    within (secondRange (v / 4096 % 16 + 224)).1 (secondRange (v / 4096 % 16 + 224)).2
      (UInt8.ofNat (v / 64 % 64 + 128)) = true := by
  have hb := toNat_byte (show v / 64 % 64 + 128 < 256 by omega)
  unfold within secondRange
  rw [hb]
  split_ifs <;> simp only [beq_iff_eq, Bool.and_eq_true, decide_eq_true_eq] at * <;> omega

/-- The first continuation byte of a four-byte character lies in the range its lead byte
allows: not overlong after `F0`, not past U+10FFFF after `F4`. -/
theorem secondRange_four {v : Nat} (hlo : 65535 < v) (hhi : v < 0x110000) :
    within (secondRange (v / 262144 % 8 + 240)).1 (secondRange (v / 262144 % 8 + 240)).2
      (UInt8.ofNat (v / 4096 % 64 + 128)) = true := by
  have hb := toNat_byte (show v / 4096 % 64 + 128 < 256 by omega)
  unfold within secondRange
  rw [hb]
  split_ifs <;> simp only [beq_iff_eq, Bool.and_eq_true, decide_eq_true_eq] at * <;> omega

/-! ## What `lead?` reads -/

theorem lead_one {b : UInt8} {rest : Bytes} (h : b.toNat < 0x80) :
    lead? b rest = some (Char.ofNat b.toNat, 0) := by
  unfold lead?
  rw [if_pos h]

theorem lead_two {b b1 : UInt8} {rest : Bytes} (hlo : 0xC2 ≤ b.toNat) (hhi : b.toNat < 0xE0)
    (h1 : continuation b1 = true) :
    lead? b (b1 :: rest) = some (Char.ofNat ((b.toNat - 0xC0) * 64 + payload b1), 1) := by
  unfold lead?
  rw [if_neg (by omega), if_neg (by omega), if_pos hhi]
  simp only [h1, if_true]

theorem lead_three {b b1 b2 : UInt8} {rest : Bytes} (hlo : 0xE0 ≤ b.toNat) (hhi : b.toNat < 0xF0)
    (h1 : within (secondRange b.toNat).1 (secondRange b.toNat).2 b1 = true)
    (h2 : continuation b2 = true) :
    lead? b (b1 :: b2 :: rest) =
      some (Char.ofNat (((b.toNat - 0xE0) * 64 + payload b1) * 64 + payload b2), 2) := by
  unfold lead?
  rw [if_neg (by omega), if_neg (by omega), if_neg (by omega), if_pos hhi]
  simp only [h1, h2, Bool.and_self, if_true]

theorem lead_four {b b1 b2 b3 : UInt8} {rest : Bytes} (hlo : 0xF0 ≤ b.toNat)
    (hhi : b.toNat < 0xF5) (h1 : within (secondRange b.toNat).1 (secondRange b.toNat).2 b1 = true)
    (h2 : continuation b2 = true) (h3 : continuation b3 = true) :
    lead? b (b1 :: b2 :: b3 :: rest) = some (Char.ofNat
      ((((b.toNat - 0xF0) * 64 + payload b1) * 64 + payload b2) * 64 + payload b3), 3) := by
  unfold lead?
  rw [if_neg (by omega), if_neg (by omega), if_neg (by omega), if_neg (by omega), if_pos hhi]
  simp only [h1, h2, h3, Bool.and_self, if_true]

/-- What `lead?` reads: one byte below `0x80`, or a lead byte of two, three or four bytes with the
continuation bytes its range allows. -/
theorem lead_inv {b : UInt8} {rest : Bytes} {c : Char} {n : Nat}
    (h : lead? b rest = some (c, n)) :
    (b.toNat < 0x80 ∧ c = Char.ofNat b.toNat ∧ n = 0) ∨
    (∃ b1 r, rest = b1 :: r ∧ 0xC2 ≤ b.toNat ∧ b.toNat < 0xE0 ∧ continuation b1 = true ∧
      c = Char.ofNat ((b.toNat - 0xC0) * 64 + payload b1) ∧ n = 1) ∨
    (∃ b1 b2 r, rest = b1 :: b2 :: r ∧ 0xE0 ≤ b.toNat ∧ b.toNat < 0xF0 ∧
      within (secondRange b.toNat).1 (secondRange b.toNat).2 b1 = true ∧ continuation b2 = true ∧
      c = Char.ofNat (((b.toNat - 0xE0) * 64 + payload b1) * 64 + payload b2) ∧ n = 2) ∨
    (∃ b1 b2 b3 r, rest = b1 :: b2 :: b3 :: r ∧ 0xF0 ≤ b.toNat ∧ b.toNat < 0xF5 ∧
      within (secondRange b.toNat).1 (secondRange b.toNat).2 b1 = true ∧ continuation b2 = true ∧
      continuation b3 = true ∧
      c = Char.ofNat ((((b.toNat - 0xF0) * 64 + payload b1) * 64 + payload b2) * 64 + payload b3) ∧
      n = 3) := by
  unfold lead? at h
  dsimp only at h
  -- `cases` on the result would evaluate the code point; the equations are taken apart instead
  split_ifs at h with h1 h2 h3 h4 h5
  · cases h
    exact .inl ⟨h1, rfl, rfl⟩
  · split at h
    · rename_i b1 r
      split at h
      case isFalse => cases h
      rename_i hc
      simp only [Option.some.injEq, Prod.mk.injEq] at h
      obtain ⟨rfl, rfl⟩ := h
      exact .inr (.inl ⟨b1, r, rfl, by omega, h3, hc, rfl, rfl⟩)
    · cases h
  · split at h
    · rename_i b1 b2 r
      split at h
      case isFalse => cases h
      rename_i hc
      simp only [Option.some.injEq, Prod.mk.injEq] at h
      obtain ⟨rfl, rfl⟩ := h
      simp only [Bool.and_eq_true] at hc
      exact .inr (.inr (.inl ⟨b1, b2, r, rfl, by omega, h4, hc.1, hc.2, rfl, rfl⟩))
    · cases h
  · split at h
    · rename_i b1 b2 b3 r
      split at h
      case isFalse => cases h
      rename_i hc
      simp only [Option.some.injEq, Prod.mk.injEq] at h
      obtain ⟨rfl, rfl⟩ := h
      simp only [Bool.and_eq_true] at hc
      exact .inr (.inr (.inr ⟨b1, b2, b3, r, rfl, by omega, h5, hc.1.1, hc.1.2, hc.2, rfl, rfl⟩))
    · cases h

/-! ## One character -/

/-- **A character's bytes read back.** `lead?` reads the bytes of a character as that character
and takes all of its continuation bytes, whatever follows them. -/
theorem lead_encodeChar (c : Char) (rest : Bytes) :
    ∃ b tl, String.utf8EncodeChar c = b :: tl ∧ lead? b (tl ++ rest) = some (c, tl.length) := by
  obtain ⟨v, hv, rfl⟩ : ∃ v : Nat, v.isValidChar ∧ c = Char.ofNat v :=
    ⟨c.toNat, c.valid, (Char.ofNat_toNat c).symm⟩
  rw [String.utf8EncodeChar.eq_1, val_toNat_ofNat hv]
  have hv' : v < 0xD800 ∨ (0xDFFF < v ∧ v < 0x110000) := hv
  -- one case per length of the encoding
  by_cases h1 : v ≤ 127
  · rw [if_pos h1]
    refine ⟨_, _, rfl, ?_⟩
    rw [List.nil_append, lead_one (by rw [toNat_byte (by omega)]; omega), toNat_byte (by omega)]
    rfl
  by_cases h2 : v ≤ 2047
  · simp only [h1, h2, if_false, if_true]
    refine ⟨_, _, rfl, ?_⟩
    have hb : (UInt8.ofNat (v / 64 % 32 + 192)).toNat = v / 64 % 32 + 192 := toNat_byte (by omega)
    rw [List.cons_append, List.nil_append,
      lead_two (by omega) (by omega) (continuation_byte v), hb, payload_byte]
    congr 3
    omega
  by_cases h3 : v ≤ 65535
  · simp only [h1, h2, h3, if_false, if_true]
    refine ⟨_, _, rfl, ?_⟩
    have hb : (UInt8.ofNat (v / 4096 % 16 + 224)).toNat = v / 4096 % 16 + 224 :=
      toNat_byte (by omega)
    have hr := secondRange_three (by omega) h3 (by omega)
    rw [← hb] at hr
    rw [List.cons_append, List.cons_append, List.nil_append,
      lead_three (by omega) (by omega) hr (continuation_byte v), hb, payload_byte, payload_byte]
    congr 3
    omega
  · simp only [h1, h2, h3, if_false]
    refine ⟨_, _, rfl, ?_⟩
    have hb : (UInt8.ofNat (v / 262144 % 8 + 240)).toNat = v / 262144 % 8 + 240 :=
      toNat_byte (by omega)
    have hr := secondRange_four (show 65535 < v by omega) (by omega)
    rw [← hb] at hr
    rw [List.cons_append, List.cons_append, List.cons_append, List.nil_append,
      lead_four (by omega) (by omega) hr (continuation_byte _) (continuation_byte v), hb,
      payload_byte, payload_byte, payload_byte]
    congr 3
    omega

/-- **What `lead?` reads is written back.** The character that `lead?` reads is written as the
lead byte and the continuation bytes it took. -/
theorem encodeChar_of_lead {b : UInt8} {rest : Bytes} {c : Char} {n : Nat}
    (h : lead? b rest = some (c, n)) : String.utf8EncodeChar c = b :: rest.take n := by
  have hb : b.toNat < 256 := b.toNat_lt
  have hcases := lead_inv h
  clear h
  -- each code point is named before the character is substituted, so that nothing evaluates it
  rcases hcases with ⟨h1, hc, hn⟩ | ⟨b1, r, hr, h1, h2, hc1, hc, hn⟩ |
    ⟨b1, b2, r, hr, h1, h2, hc1, hc2, hc, hn⟩ | ⟨b1, b2, b3, r, hr, h1, h2, hc1, hc2, hc3, hc, hn⟩
  · -- one byte
    subst hc hn
    rw [String.utf8EncodeChar.eq_1, val_toNat_ofNat (.inl (by omega)), if_pos (by omega)]
    simp [byte_eq rfl]
  · -- two bytes
    generalize hx : (b.toNat - 0xC0) * 64 + payload b1 = x at hc
    subst hc hn hr
    rw [continuation_iff] at hc1
    unfold payload at hx
    rw [String.utf8EncodeChar.eq_1, val_toNat_ofNat (.inl (by omega)), if_neg (by omega),
      if_pos (by omega)]
    simp only [List.take_succ_cons, List.take_zero, List.cons.injEq, and_true]
    exact ⟨byte_eq (by omega), byte_eq (by omega)⟩
  · -- three bytes: the range after `ED` keeps the code point off the surrogates
    generalize hx : ((b.toNat - 0xE0) * 64 + payload b1) * 64 + payload b2 = x at hc
    subst hc hn hr
    have hr := secondRange_bounds hc1
    rw [continuation_iff] at hc2
    unfold payload at hx
    have hv : x.isValidChar := by
      unfold Nat.isValidChar
      omega
    rw [String.utf8EncodeChar.eq_1, val_toNat_ofNat hv, if_neg (by omega), if_neg (by omega),
      if_pos (by omega)]
    simp only [List.take_succ_cons, List.take_zero, List.cons.injEq, and_true]
    exact ⟨byte_eq (by omega), byte_eq (by omega), byte_eq (by omega)⟩
  · -- four bytes: the range after `F4` keeps the code point below U+110000
    generalize hx : (((b.toNat - 0xF0) * 64 + payload b1) * 64 + payload b2) * 64 + payload b3 = x
      at hc
    subst hc hn hr
    have hr := secondRange_bounds hc1
    rw [continuation_iff] at hc2 hc3
    unfold payload at hx
    have hv : x.isValidChar := by
      unfold Nat.isValidChar
      omega
    rw [String.utf8EncodeChar.eq_1, val_toNat_ofNat hv, if_neg (by omega), if_neg (by omega),
      if_neg (by omega)]
    simp only [List.take_succ_cons, List.take_zero, List.cons.injEq, and_true]
    exact ⟨byte_eq (by omega), byte_eq (by omega), byte_eq (by omega), byte_eq (by omega)⟩

/-! ## Whole sequences -/

theorem encode_eq_flatMap (s : String) : encode s = s.toList.flatMap String.utf8EncodeChar := by
  conv_lhs => rw [← String.ofList_toList (s := s)]
  rw [encode, String.toUTF8, String.toByteArray_ofList, List.utf8Encode, toList_toByteArray]

theorem chars_flatMap (cs : List Char) :
    chars (cs.flatMap String.utf8EncodeChar) = cs ∧
      valid (cs.flatMap String.utf8EncodeChar) = true := by
  induction cs with
  | nil => simp [chars, valid]
  | cons c cs ih =>
    obtain ⟨b, tl, henc, hlead⟩ := lead_encodeChar c (cs.flatMap String.utf8EncodeChar)
    rw [List.flatMap_cons, henc, List.cons_append, chars, valid, hlead]
    simp [ih]

theorem flatMap_chars {bs : Bytes} (h : valid bs = true) :
    (chars bs).flatMap String.utf8EncodeChar = bs := by
  fun_induction chars bs with
  | case1 => rfl
  | case2 b rest c n hlead ih =>
    rw [valid, hlead] at h
    rw [List.flatMap_cons, ih h, encodeChar_of_lead hlead, List.cons_append, List.take_append_drop]
  | case3 b rest hlead ih =>
    rw [valid, hlead] at h
    cases h

/-- The bytes of a string are well formed. -/
theorem valid_encode (s : String) : valid (encode s) = true := by
  rw [encode_eq_flatMap]
  exact (chars_flatMap _).2

/-- **Strings read back.** The bytes of a string read back as the string. -/
theorem decodeLossy_encode (s : String) : decodeLossy (encode s) = s := by
  rw [decodeLossy, encode_eq_flatMap, (chars_flatMap _).1, String.ofList_toList]

/-- **Well-formed bytes write back.** Well-formed bytes are the bytes of the text they read as. -/
theorem encode_decodeLossy {bs : Bytes} (h : valid bs = true) : encode (decodeLossy bs) = bs := by
  rw [encode_eq_flatMap, decodeLossy, String.toList_ofList, flatMap_chars h]

/-- The well-formed byte sequences are exactly the bytes of strings. -/
theorem valid_iff_exists_encode (bs : Bytes) : valid bs = true ↔ ∃ s, encode s = bs := by
  constructor
  · intro h
    exact ⟨decodeLossy bs, encode_decodeLossy h⟩
  · rintro ⟨s, rfl⟩
    exact valid_encode s

end Utf8

end CrowdSim
