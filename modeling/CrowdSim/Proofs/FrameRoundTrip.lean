import Mathlib
import CrowdSim.Proofs.WireRoundTrip

/-!
# Frames read back

A frame is written field by field, and a scalar equal to zero is left out; for a double that
means either zero, since the writer compares the double with zero. The reader starts from the
frame with every field zero, so a field left out reads back as zero, and a negative zero comes
back as the positive one. Every other word, NaN payloads and infinities included, comes back as
it was.

The reading is followed piece by piece: `PieceReads step piece u` says that the bytes `piece` at
the front of a message read as the update `u` of the record, whatever follows and with any fuel
beyond the bytes left. Pieces compose (`PieceReads.append`), each kind of field the writer emits
is a piece (`PieceReads.varintField`, `doubleField`, `boolField`, `bytesField`), and a message
that is a piece reads as its update applied to the empty record (`PieceReads.readFields_eq`).

* `Frame.decode_encode`: decoding an encoded frame succeeds and gives the frame with its zeros
  unsigned (`Frame.unsignZeros`);
* `decode_encode_frame`: so it gives the frame itself exactly when the negative zero is not among
  its double words (`Frame.words`);
* `decode_encode_loses_negative_zero`: a frame whose time is the negative zero is written with
  no bytes at all and reads back with the positive zero.
-/

namespace CrowdSim

open Protobuf

/-! ## Zeros read back unsigned -/

namespace Binary64

/-- The word of the negative zero. -/
def negZeroWord : UInt64 := 0x8000000000000000

/-- The word a double reads back as when a writer leaves out every double equal to zero: either
zero reads back as the positive one. -/
def unsignZero (w : UInt64) : UInt64 := if isZeroWord w then 0 else w

/-- Only the negative zero changes when read back. -/
theorem unsignZero_eq_self_iff (w : UInt64) : unsignZero w = w ↔ negZeroWord ≠ w := by
  have hlt := w.toNat_lt
  have hnz : negZeroWord.toNat = Nat.pow 2 63 := rfl
  unfold unsignZero isZeroWord
  constructor
  · intro h hw
    subst hw
    revert h
    decide
  · intro hw
    split
    · rename_i hz
      have h63 : w.toNat % Nat.pow 2 63 = 0 := by simpa using hz
      have hw0 : w.toNat = 0 := by
        have : w.toNat ≠ Nat.pow 2 63 := fun h => hw (UInt64.toNat_inj.mp (hnz.trans h.symm))
        simp only [Nat.pow_eq] at h63 this ⊢
        omega
      exact (UInt64.toNat_inj.mp (by simpa using hw0.symm))
    · rfl

end Binary64

open Binary64

/-- A vector as it reads back: both zeros unsigned. -/
def FrameVec.unsignZeros (v : FrameVec) : FrameVec := ⟨unsignZero v.x, unsignZero v.y⟩

/-- A pedestrian as it reads back: the zeros of its vectors unsigned. -/
def FrameEntry.unsignZeros (p : FrameEntry) : FrameEntry :=
  { p with
    position := p.position.unsignZeros, velocity := p.velocity.unsignZeros,
    force := p.force.unsignZeros }

/-- A frame as it reads back: the zeros of its time and vectors unsigned. -/
def Frame.unsignZeros (f : Frame) : Frame :=
  { f with time := unsignZero f.time, entries := f.entries.map FrameEntry.unsignZeros }

/-- The double words of a vector. -/
def FrameVec.words (v : FrameVec) : List UInt64 := [v.x, v.y]

/-- The double words of a pedestrian: its position, velocity and force. -/
def FrameEntry.words (p : FrameEntry) : List UInt64 :=
  p.position.words ++ p.velocity.words ++ p.force.words

/-- The double words of a frame: its time and every pedestrian's. -/
def Frame.words (f : Frame) : List UInt64 := f.time :: f.entries.flatMap FrameEntry.words

theorem FrameVec.unsignZeros_eq_self_iff (v : FrameVec) :
    v.unsignZeros = v ↔ negZeroWord ∉ v.words := by
  obtain ⟨x, y⟩ := v
  simp [unsignZeros, words, unsignZero_eq_self_iff, not_or]

theorem FrameEntry.unsignZeros_eq_self_iff (p : FrameEntry) :
    p.unsignZeros = p ↔ negZeroWord ∉ p.words := by
  obtain ⟨id, group, crowd, pos, vel, force, waiting, lost, finished⟩ := p
  simp only [unsignZeros, words, mk.injEq, true_and, and_true, List.mem_append, not_or,
    FrameVec.unsignZeros_eq_self_iff, and_assoc]

theorem Frame.unsignZeros_eq_self_iff (f : Frame) :
    f.unsignZeros = f ↔ negZeroWord ∉ f.words := by
  obtain ⟨tick, time, epoch, integrator, entries⟩ := f
  simp only [unsignZeros, words, mk.injEq, true_and, List.mem_cons, List.mem_flatMap,
    not_or, not_exists, not_and, unsignZero_eq_self_iff]
  apply and_congr_right
  intro _
  induction entries with
  | nil => simp
  | cons p ps ih => simp [FrameEntry.unsignZeros_eq_self_iff, ih]

/-! ## Reading a message piece by piece -/

section Pieces

variable {σ : Type} (step : Nat → Nat → WireType → Bytes → σ → Except FrameError (σ × Bytes))

/-- The message bytes `piece` read as the update `u` of the record, whatever bytes follow, when
the fuel exceeds the bytes left. -/
def PieceReads (piece : Bytes) (u : σ → σ) : Prop :=
  ∀ fuel s rest, piece.length + rest.length < fuel →
    ∃ fuel', rest.length < fuel' ∧
      readFields fuel step s (piece ++ rest) = readFields fuel' step (u s) rest

variable {step}

theorem readFields_nil (fuel : Nat) (s : σ) : readFields fuel step s [] = .ok s := by
  cases fuel <;> rfl

theorem readFields_succ {bs : Bytes} (h : bs ≠ []) (fuel : Nat) (s : σ) :
    readFields (fuel + 1) step s bs =
      match readTag bs with
      | .error e => .error ⟨none, e⟩
      | .ok ((num, t), rest) => (do
        let (s, rest) ← step fuel num t rest s
        readFields fuel step s rest) := by
  cases bs with
  | nil => contradiction
  | cons b bs => rfl

theorem PieceReads.nil : PieceReads step [] fun s => s :=
  fun fuel _ _ h => ⟨fuel, by simpa using h, rfl⟩

theorem PieceReads.congr {p : Bytes} {u u' : σ → σ} (h : PieceReads step p u)
    (he : ∀ s, u s = u' s) : PieceReads step p u' := by
  intro fuel s rest hf
  obtain ⟨fuel', h1, h2⟩ := h fuel s rest hf
  exact ⟨fuel', h1, he s ▸ h2⟩

/-- Two pieces one after the other read as the one update after the other. -/
theorem PieceReads.append {p q : Bytes} {u v : σ → σ} (hp : PieceReads step p u)
    (hq : PieceReads step q v) : PieceReads step (p ++ q) (v ∘ u) := by
  intro fuel s rest hf
  obtain ⟨fuel₁, h1, e1⟩ := hp fuel s (q ++ rest) (by simp at hf ⊢; omega)
  obtain ⟨fuel₂, h2, e2⟩ := hq fuel₁ (u s) rest (by simpa using h1)
  exact ⟨fuel₂, h2, by rw [List.append_assoc, e1, e2]; rfl⟩

/-- A whole message read with fuel beyond its length. -/
theorem PieceReads.readFields_eq {p : Bytes} {u : σ → σ} (h : PieceReads step p u) (s : σ)
    {fuel : Nat} (hf : p.length < fuel) : readFields fuel step s p = .ok (u s) := by
  obtain ⟨fuel', _, e⟩ := h fuel s [] (by simpa using hf)
  simpa [readFields_nil] using e

/-- One field: its tag, then a value `v` that `step` reads as the update `u`. -/
theorem PieceReads.field (num : Nat) (t : WireType) (h1 : 1 ≤ num) (h2 : num ≤ maxTagNumber)
    (v : Bytes) (u : σ → σ)
    (hstep : ∀ fuel s rest, (v ++ rest).length < fuel →
      step fuel num t (v ++ rest) s = .ok (u s, rest)) :
    PieceReads step (tag num t ++ v) u := by
  intro fuel s rest hf
  have htag : (tag num t).length ≠ 0 := by simp [tag, varint_ne_nil]
  obtain ⟨fuel, rfl⟩ : ∃ f, fuel = f + 1 := ⟨fuel - 1, by simp at hf; omega⟩
  have hne : tag num t ++ v ++ rest ≠ [] := by simp [tag, varint_ne_nil]
  have hlen : (v ++ rest).length < fuel := by simp at hf ⊢; omega
  refine ⟨fuel, by simp at hlen; omega, ?_⟩
  rw [readFields_succ hne, List.append_assoc, readTag_tag num t h1 h2]
  simp only [bind, Except.bind, hstep fuel s rest hlen]

/-! ## Fields as the frame writes them -/

/-- A varint field, left out when zero. -/
theorem PieceReads.varintField (num : Nat) (h1 : 1 ≤ num) (h2 : num ≤ maxTagNumber)
    (w : UInt64) (u : σ → σ)
    (hstep : ∀ fuel s rest, step fuel num .varint (varint w.toNat ++ rest) s = .ok (u s, rest)) :
    PieceReads step (varintField num w) (fun s => if w = 0 then s else u s) := by
  unfold Protobuf.varintField
  by_cases hw : w = 0
  · simp only [hw, beq_self_eq_true, if_true]
    exact PieceReads.nil
  · simp only [beq_iff_eq, hw, if_false]
    exact PieceReads.field num .varint h1 h2 _ _ fun fuel s rest _ => hstep fuel s rest

/-- A double field, left out when either zero. -/
theorem PieceReads.doubleField (num : Nat) (h1 : 1 ≤ num) (h2 : num ≤ maxTagNumber)
    (w : UInt64) (u : σ → σ)
    (hstep : ∀ fuel s rest, step fuel num .fixed64 (fixed64 w ++ rest) s = .ok (u s, rest)) :
    PieceReads step (doubleField num w) (fun s => if isZeroWord w then s else u s) := by
  unfold Protobuf.doubleField
  by_cases hw : isZeroWord w
  · simp only [hw, if_true]
    exact PieceReads.nil
  · simp only [hw, Bool.false_eq_true, if_false]
    exact PieceReads.field num .fixed64 h1 h2 _ _ fun fuel s rest _ => hstep fuel s rest

/-- A boolean field, left out when false. -/
theorem PieceReads.boolField (num : Nat) (h1 : 1 ≤ num) (h2 : num ≤ maxTagNumber)
    (b : Bool) (u : σ → σ)
    (hstep : ∀ fuel s rest, step fuel num .varint ([1] ++ rest) s = .ok (u s, rest)) :
    PieceReads step (boolField num b) (fun s => if b then u s else s) := by
  unfold Protobuf.boolField
  cases b with
  | false => exact PieceReads.nil
  | true =>
    exact (PieceReads.field num .varint h1 h2 _ _ fun fuel s rest _ => hstep fuel s rest).congr
      fun _ => rfl

/-- A length-prefixed field. -/
theorem PieceReads.bytesField (num : Nat) (h1 : 1 ≤ num) (h2 : num ≤ maxTagNumber)
    (body : Bytes) (u : σ → σ)
    (hstep : ∀ fuel s rest, (varint body.length ++ body ++ rest).length < fuel →
      step fuel num .bytes (varint body.length ++ body ++ rest) s = .ok (u s, rest)) :
    PieceReads step (bytesField num body) u := by
  unfold Protobuf.bytesField
  rw [List.append_assoc]
  exact PieceReads.field num .bytes h1 h2 _ _ fun fuel s rest h => by
    simpa [List.append_assoc] using hstep fuel s rest (by simpa [List.append_assoc] using h)

end Pieces

/-! ## Lengths -/

theorem tag_length (num : Nat) (t : WireType) (h : num < 16) : (tag num t).length = 1 := by
  have hc := t.code_lt
  rw [tag, varint_eq, if_pos (by omega)]
  rfl

theorem varint_length_le_ten (w : UInt64) : (varint w.toNat).length ≤ 10 :=
  varint_length_le 9 w.toNat (by have := w.toNat_lt; omega)

theorem FrameVec.encode_length_le (v : FrameVec) : v.encode.length ≤ 18 := by
  have h1 := tag_length 1 .fixed64 (by decide)
  have h2 := tag_length 2 .fixed64 (by decide)
  simp only [FrameVec.encode, Protobuf.doubleField]
  split <;> split <;> simp [h1, h2]

theorem varintField_length_le (num : Nat) (h : num < 16) (w : UInt64) :
    (varintField num w).length ≤ 11 := by
  have := tag_length num .varint h
  have := varint_length_le_ten w
  unfold Protobuf.varintField
  split
  · simp
  · simp; omega

theorem boolField_length_le (num : Nat) (h : num < 16) (b : Bool) :
    (boolField num b).length ≤ 2 := by
  have := tag_length num .varint h
  unfold Protobuf.boolField
  split
  · simp; omega
  · simp

theorem vecField_length_le (num : Nat) (h : num < 16) (v : FrameVec) :
    (bytesField num v.encode).length ≤ 20 := by
  have := tag_length num .bytes h
  have hv := v.encode_length_le
  have := varint_length_le 0 v.encode.length (by omega)
  simp [Protobuf.bytesField]
  omega

theorem FrameEntry.encode_length_le (p : FrameEntry) : p.encode.length ≤ 99 := by
  have := varintField_length_le 1 (by decide) p.id.toUInt64
  have := varintField_length_le 2 (by decide) p.group.toUInt64
  have := varintField_length_le 3 (by decide) p.crowd.toUInt64
  have := vecField_length_le 4 (by decide) p.position
  have := vecField_length_le 5 (by decide) p.velocity
  have := vecField_length_le 6 (by decide) p.force
  have := boolField_length_le 7 (by decide) p.waiting
  have := boolField_length_le 8 (by decide) p.lost
  have := boolField_length_le 9 (by decide) p.finished
  simp only [FrameEntry.encode, List.length_append]
  omega

/-! ## Vectors -/

/-- **A vector message reads back** as its words, either zero left as the record had it. -/
theorem FrameVec.encode_reads (v : FrameVec) :
    PieceReads vecField v.encode fun r =>
      ⟨if isZeroWord v.x then r.x else v.x, if isZeroWord v.y then r.y else v.y⟩ := by
  have hx := @PieceReads.doubleField _ vecField 1 (by decide) (by decide) v.x
    (fun r => { r with x := v.x }) fun fuel s rest => by
      simp [vecField, atField, readFixed64_fixed64, bind, Except.bind, pure, Except.pure]
  have hy := @PieceReads.doubleField _ vecField 2 (by decide) (by decide) v.y
    (fun r => { r with y := v.y }) fun fuel s rest => by
      simp [vecField, atField, readFixed64_fixed64, bind, Except.bind, pure, Except.pure]
  exact (hx.append hy).congr fun r => by
    simp only [Function.comp]
    split <;> split <;> rfl

theorem FrameVec.decodeWith_encode (v : FrameVec) {fuel : Nat} (h : v.encode.length < fuel) :
    FrameVec.decodeWith fuel v.encode = .ok v.unsignZeros := by
  rw [FrameVec.decodeWith, v.encode_reads.readFields_eq FrameVec.zero h]
  rfl

/-! ## Pedestrians -/

theorem entryField_varint (fuel num : Nat) (w : UInt64) (rest : Bytes) (p : FrameEntry) :
    entryField fuel num .varint (varint w.toNat ++ rest) p = .ok (p.setVarint num w, rest) := by
  simp [entryField, atField, readVarint_varint_word, bind, Except.bind, pure, Except.pure]

theorem entryField_flag (fuel num : Nat) (rest : Bytes) (p : FrameEntry) :
    entryField fuel num .varint ([1] ++ rest) p = .ok (p.setVarint num 1, rest) := by
  simpa [varint_one] using entryField_varint fuel num 1 rest p

theorem entryField_vec (fuel num : Nat) (hnum : num = 4 ∨ num = 5 ∨ num = 6) (v : FrameVec)
    (rest : Bytes) (p : FrameEntry)
    (hf : (varint v.encode.length ++ v.encode ++ rest).length < fuel) :
    entryField fuel num .bytes (varint v.encode.length ++ v.encode ++ rest) p =
      .ok (p.setVec num v.unsignZeros, rest) := by
  have hlen := v.encode_length_le
  have hbody : v.encode.length < fuel := by simp at hf; omega
  have hn : (num == 4 || num == 5 || num == 6) = true := by
    rcases hnum with rfl | rfl | rfl <;> rfl
  simp [entryField, hn, atField, readBytes_bytes _ _ (show v.encode.length < 2 ^ 64 by omega),
    bind, Except.bind, FrameVec.decodeWith_encode v hbody, pure, Except.pure]

/-- An identifier left out as zero reads back as zero. -/
theorem Int64.ite_toUInt64_eq_zero (a : Int64) : (if a.toUInt64 = 0 then 0 else a) = a := by
  split
  · rename_i h
    rw [← Int64.toInt64_toUInt64 a, h]
    rfl
  · rfl

/-- **A pedestrian message reads back**, fields left out keeping what the record had. -/
theorem FrameEntry.encode_reads (p : FrameEntry) :
    PieceReads entryField p.encode fun r =>
      ⟨if p.id.toUInt64 = 0 then r.id else p.id, if p.group.toUInt64 = 0 then r.group else p.group,
        if p.crowd.toUInt64 = 0 then r.crowd else p.crowd, p.position.unsignZeros,
        p.velocity.unsignZeros, p.force.unsignZeros, if p.waiting then true else r.waiting,
        if p.lost then true else r.lost, if p.finished then true else r.finished⟩ := by
  have hid : PieceReads entryField (varintField 1 p.id.toUInt64)
      fun r => { r with id := if p.id.toUInt64 = 0 then r.id else p.id } :=
    (PieceReads.varintField 1 (by decide) (by decide) _ _
      fun fuel s rest => entryField_varint fuel 1 _ rest s).congr
      fun r => by split <;> simp [FrameEntry.setVarint, Int64.toInt64_toUInt64]
  have hgroup : PieceReads entryField (varintField 2 p.group.toUInt64)
      fun r => { r with group := if p.group.toUInt64 = 0 then r.group else p.group } :=
    (PieceReads.varintField 2 (by decide) (by decide) _ _
      fun fuel s rest => entryField_varint fuel 2 _ rest s).congr
      fun r => by split <;> simp [FrameEntry.setVarint, Int64.toInt64_toUInt64]
  have hcrowd : PieceReads entryField (varintField 3 p.crowd.toUInt64)
      fun r => { r with crowd := if p.crowd.toUInt64 = 0 then r.crowd else p.crowd } :=
    (PieceReads.varintField 3 (by decide) (by decide) _ _
      fun fuel s rest => entryField_varint fuel 3 _ rest s).congr
      fun r => by split <;> simp [FrameEntry.setVarint, Int64.toInt64_toUInt64]
  have hpos := PieceReads.bytesField 4 (by decide) (by decide) p.position.encode _
    fun fuel s rest h => entryField_vec fuel 4 (by decide) p.position rest s h
  have hvel := PieceReads.bytesField 5 (by decide) (by decide) p.velocity.encode _
    fun fuel s rest h => entryField_vec fuel 5 (by decide) p.velocity rest s h
  have hforce := PieceReads.bytesField 6 (by decide) (by decide) p.force.encode _
    fun fuel s rest h => entryField_vec fuel 6 (by decide) p.force rest s h
  have hwaiting : PieceReads entryField (boolField 7 p.waiting)
      fun r => { r with waiting := if p.waiting then true else r.waiting } :=
    (PieceReads.boolField 7 (by decide) (by decide) _ _
      fun fuel s rest => entryField_flag fuel 7 rest s).congr fun r => by cases p.waiting <;> rfl
  have hlost : PieceReads entryField (boolField 8 p.lost)
      fun r => { r with lost := if p.lost then true else r.lost } :=
    (PieceReads.boolField 8 (by decide) (by decide) _ _
      fun fuel s rest => entryField_flag fuel 8 rest s).congr fun r => by cases p.lost <;> rfl
  have hfinished : PieceReads entryField (boolField 9 p.finished)
      fun r => { r with finished := if p.finished then true else r.finished } :=
    (PieceReads.boolField 9 (by decide) (by decide) _ _
      fun fuel s rest => entryField_flag fuel 9 rest s).congr fun r => by cases p.finished <;> rfl
  exact ((((((((hid.append hgroup).append hcrowd).append hpos).append hvel).append
    hforce).append hwaiting).append hlost).append hfinished).congr fun r => rfl

theorem FrameEntry.decodeWith_encode (p : FrameEntry) {fuel : Nat} (h : p.encode.length < fuel) :
    FrameEntry.decodeWith fuel p.encode = .ok p.unsignZeros := by
  rw [FrameEntry.decodeWith, p.encode_reads.readFields_eq FrameEntry.empty h]
  simp [FrameEntry.empty, FrameEntry.unsignZeros, Int64.ite_toUInt64_eq_zero]

/-! ## Frames -/

theorem frameField_varint (fuel num : Nat) (hnum : num = 1 ∨ num = 3) (w : UInt64)
    (rest : Bytes) (f : Frame) :
    frameField fuel num .varint (varint w.toNat ++ rest) f =
      .ok (if num = 1 then { f with tick := w } else { f with epoch := w }, rest) := by
  rcases hnum with rfl | rfl <;>
    simp [frameField, atField, readVarint_varint_word, bind, Except.bind, pure, Except.pure]

theorem frameField_time (fuel : Nat) (w : UInt64) (rest : Bytes) (f : Frame) :
    frameField fuel 2 .fixed64 (fixed64 w ++ rest) f = .ok ({ f with time := w }, rest) := by
  simp [frameField, atField, readFixed64_fixed64, bind, Except.bind, pure, Except.pure]

theorem frameField_integrator (fuel : Nat) (s : Bytes) (hs : s.length < 2 ^ 64) (rest : Bytes)
    (f : Frame) :
    frameField fuel 4 .bytes (varint s.length ++ s ++ rest) f =
      .ok ({ f with integrator := s }, rest) := by
  simp [frameField, atField, readBytes_bytes _ _ hs, bind, Except.bind, pure, Except.pure]

theorem frameField_entry (fuel : Nat) (p : FrameEntry) (rest : Bytes) (f : Frame)
    (hf : (varint p.encode.length ++ p.encode ++ rest).length < fuel) :
    frameField fuel 5 .bytes (varint p.encode.length ++ p.encode ++ rest) f =
      .ok ({ f with entries := f.entries ++ [p.unsignZeros] }, rest) := by
  have hlen := p.encode_length_le
  have hbody : p.encode.length < fuel := by simp at hf; omega
  simp [frameField, atField, readBytes_bytes _ _ (show p.encode.length < 2 ^ 64 by omega),
    bind, Except.bind, FrameEntry.decodeWith_encode p hbody, pure, Except.pure]

/-- The pedestrian messages of a frame read back, in order. -/
theorem entries_reads (ps : List FrameEntry) :
    PieceReads frameField (ps.flatMap fun p => bytesField 5 p.encode)
      fun r => { r with entries := r.entries ++ ps.map FrameEntry.unsignZeros } := by
  induction ps with
  | nil => exact PieceReads.nil.congr fun r => by simp
  | cons p ps ih =>
    rw [List.flatMap_cons]
    have hp := PieceReads.bytesField 5 (by decide) (by decide) p.encode _
      fun fuel s rest hf => frameField_entry fuel p rest s hf
    exact (hp.append ih).congr fun r => by simp

/-- **A frame message reads back**, fields left out keeping what the record had. -/
theorem Frame.encode_reads (f : Frame) (h : f.integrator.length < 2 ^ 64) :
    PieceReads frameField f.encode fun r =>
      ⟨if f.tick = 0 then r.tick else f.tick, if isZeroWord f.time then r.time else f.time,
        if f.epoch = 0 then r.epoch else f.epoch,
        if f.integrator.isEmpty then r.integrator else f.integrator,
        r.entries ++ f.entries.map FrameEntry.unsignZeros⟩ := by
  have htick : PieceReads frameField (varintField 1 f.tick)
      fun r => { r with tick := if f.tick = 0 then r.tick else f.tick } :=
    (PieceReads.varintField 1 (by decide) (by decide) _ _
      fun fuel s rest => frameField_varint fuel 1 (by decide) _ rest s).congr
      fun r => by split <;> rfl
  have htime : PieceReads frameField (doubleField 2 f.time)
      fun r => { r with time := if isZeroWord f.time then r.time else f.time } :=
    (PieceReads.doubleField 2 (by decide) (by decide) _ _
      fun fuel s rest => frameField_time fuel _ rest s).congr
      fun r => by split <;> rfl
  have hepoch : PieceReads frameField (varintField 3 f.epoch)
      fun r => { r with epoch := if f.epoch = 0 then r.epoch else f.epoch } :=
    (PieceReads.varintField 3 (by decide) (by decide) _ _
      fun fuel s rest => frameField_varint fuel 3 (by decide) _ rest s).congr
      fun r => by split <;> rfl
  have hintegrator : PieceReads frameField
      (if f.integrator.isEmpty then [] else bytesField 4 f.integrator)
      fun r => { r with
        integrator := if f.integrator.isEmpty then r.integrator else f.integrator } := by
    by_cases he : f.integrator.isEmpty
    · simp only [he, if_true]
      exact PieceReads.nil
    · simp only [he, Bool.false_eq_true, if_false]
      exact PieceReads.bytesField 4 (by decide) (by decide) _ _
        fun fuel s rest _ => frameField_integrator fuel _ h rest s
  exact ((((htick.append htime).append hepoch).append hintegrator).append
    (entries_reads f.entries)).congr fun r => rfl

/-- **Every frame reads back**, each double as its word except that a negative zero reads back
as the positive one. -/
theorem Frame.decode_encode (f : Frame) (h : f.integrator.length < 2 ^ 64) :
    Frame.decode f.encode = .ok f.unsignZeros := by
  rw [Frame.decode, (f.encode_reads h).readFields_eq Frame.empty (by omega)]
  simp only [Frame.empty, Frame.unsignZeros, unsignZero, List.nil_append, Except.ok.injEq,
    Frame.mk.injEq, ite_eq_right_iff, true_and, and_true]
  -- what is left: a tick or epoch left out as zero reads back as zero
  exact ⟨fun h => h.symm, fun h => h.symm, fun h => (List.isEmpty_iff.mp h).symm⟩

/-- **Frames read back exactly when no double is a negative zero.** Decoding an encoded frame
succeeds and gives the frame with each negative zero made positive, so it gives the frame itself
exactly when none of its doubles is the negative zero. -/
theorem decode_encode_frame (f : Frame) (h : f.integrator.length < 2 ^ 64) :
    Frame.decode f.encode = .ok f.unsignZeros ∧
      (Frame.decode f.encode = .ok f ↔ negZeroWord ∉ f.words) := by
  refine ⟨f.decode_encode h, ?_⟩
  rw [f.decode_encode h, Except.ok.injEq, Frame.unsignZeros_eq_self_iff]

/-- A frame of a tick with two pedestrians reads back as itself, a NaN payload and an infinity
included. The doubles are given by their words: the time is 1.2, the first pedestrian stands at
(0.5, -2) moving at (0, 1.3) under the force (-0.1, 0.2), and the second stands at (1, 0) under a
force of a NaN with payload one and minus infinity. -/
theorem decode_encode_frame_two_walkers :
    let f : Frame := ⟨12, 0x3FF3333333333333, 3, [0x72, 0x75, 0x6E, 0x67, 0x65],
      [⟨1, 1, 1, ⟨0x3FE0000000000000, 0xC000000000000000⟩, ⟨0, 0x3FF4CCCCCCCCCCCD⟩,
          ⟨0xBFB999999999999A, 0x3FC999999999999A⟩, true, false, false⟩,
        ⟨-2, 1, 1, ⟨0x3FF0000000000000, 0⟩, FrameVec.zero,
          ⟨0x7FF8000000000001, 0xFFF0000000000000⟩, false, false, true⟩]⟩
    f.integrator.length < 2 ^ 64 ∧ Frame.decode f.encode = .ok f := by
  intro f
  have h : f.integrator.length < 2 ^ 64 := by decide
  exact ⟨h, (decode_encode_frame f h).2.mpr (by decide)⟩

/-- A frame whose time is the negative zero is written without its time and reads back with the
positive zero. -/
theorem decode_encode_loses_negative_zero :
    let f : Frame := { Frame.empty with time := negZeroWord }
    f.encode = [] ∧ Frame.decode f.encode = .ok Frame.empty ∧ Frame.decode f.encode ≠ .ok f := by
  intro f
  have hencode : f.encode = [] := by decide
  have hdecode : Frame.decode f.encode = .ok Frame.empty := by
    rw [hencode]
    rfl
  refine ⟨hencode, hdecode, fun h => ?_⟩
  have htime := congrArg Frame.time (Except.ok.inj (hdecode.symm.trans h))
  exact absurd htime (by decide)

end CrowdSim
