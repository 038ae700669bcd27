import Mathlib
import CrowdSim.Proofs.FrameGrammar

/-!
# Fields a frame reader does not know

A newer writer may add fields that an older reader does not know: a field number outside a
message's schema, or a known number with another wire type. This module says where such fields
may stand in a frame (at its top level, or among the fields of a pedestrian or vector payload,
whose length is then written anew) and proves that the reader steps over them.

* The readers look at no byte past their value (`readVarint_append`, `readTag_append`,
  `ValueSpan.append`), so a field read alone is read the same way with anything after it.
* `UnknownField schema depth x`: `x` is one whole field of the grammar, its tag outside `schema`,
  its groups nested at most `depth` deep.
* `Interleaved extra pieces bs`: `bs` is the fields `pieces` in order with fields that `extra`
  admits before, between and after them; `FramePadded` nests it into pedestrians and vectors.
* `decode_skips_unknown_fields`: a frame written with unknown fields inserted anywhere, groups
  nested at most `groupDepth + 1` deep, reads as the frame written without them;
* `decode_refuses_deep_unknown_group`: an unknown group nested one level deeper makes the reading
  fail.
-/

namespace CrowdSim

open Protobuf Binary64

/-! ## Readers look no further than their value -/

theorem readVarintFrom_append {i acc : Nat} {bs r : Bytes} {v : UInt64} (rest : Bytes)
    (h : readVarintFrom i acc bs = .ok (v, r)) :
    readVarintFrom i acc (bs ++ rest) = .ok (v, r ++ rest) := by
  induction bs generalizing i acc with
  | nil => simp [readVarintFrom] at h
  | cons b bs ih =>
    rw [List.cons_append]
    unfold readVarintFrom at h ⊢
    by_cases h9 : i ≥ 9
    · rw [if_pos h9] at h ⊢
      by_cases h2 : b.toNat < 2
      · rw [if_pos h2] at h ⊢
        cases h
        rfl
      · rw [if_neg h2] at h
        cases h
    · rw [if_neg h9] at h ⊢
      by_cases h8 : b.toNat < 0x80
      · rw [if_pos h8] at h ⊢
        cases h
        rfl
      · rw [if_neg h8] at h ⊢
        exact ih h

theorem readVarint_append {bs r : Bytes} {v : UInt64} (rest : Bytes)
    (h : readVarint bs = .ok (v, r)) : readVarint (bs ++ rest) = .ok (v, r ++ rest) :=
  readVarintFrom_append rest h

theorem readTag_append {bs r : Bytes} {num : Nat} {t : WireType} (rest : Bytes)
    (h : readTag bs = .ok ((num, t), r)) : readTag (bs ++ rest) = .ok ((num, t), r ++ rest) := by
  obtain ⟨v, hv, hnum⟩ := readTag_eq_ok_iff.mp h
  exact readTag_eq_ok_iff.mpr ⟨v, readVarint_append rest hv, hnum⟩

theorem readLittle_append {n : Nat} {bs r : Bytes} {w : Nat} (rest : Bytes)
    (h : readLittle n bs = .ok (w, r)) : readLittle n (bs ++ rest) = .ok (w, r ++ rest) := by
  unfold readLittle at h ⊢
  split at h
  · cases h
  · rename_i hn
    cases h
    have hle : n ≤ bs.length := by omega
    rw [if_neg (by simp; omega), List.take_append_of_le_length hle,
      List.drop_append_of_le_length hle]

theorem readBytes_append {bs p r : Bytes} (rest : Bytes) (h : readBytes bs = .ok (p, r)) :
    readBytes (bs ++ rest) = .ok (p, r ++ rest) := by
  unfold readBytes at h ⊢
  obtain ⟨⟨len, r'⟩, hv, hk⟩ := except_bind_eq_ok_iff.mp h
  rw [readVarint_append rest hv]
  dsimp only at hk
  -- the payload fits in what followed the length, so it fits with more bytes after it
  split_ifs at hk with hfit
  simp only [pure, Except.pure, Except.ok.injEq, Prod.mk.injEq] at hk
  obtain ⟨rfl, rfl⟩ := hk
  have hle : len.toNat ≤ r'.length := by omega
  simp only [bind, Except.bind, pure, Except.pure]
  rw [if_neg (by simp; omega), List.take_append_of_le_length hle,
    List.drop_append_of_le_length hle]

theorem ScalarSpan.append {t : WireType} {bs r : Bytes} (rest : Bytes) (h : ScalarSpan t bs r) :
    ScalarSpan t (bs ++ rest) (r ++ rest) := by
  cases t with
  | varint => obtain ⟨v, hv⟩ := h; exact ⟨v, readVarint_append rest hv⟩
  | fixed64 => obtain ⟨w, hw⟩ := h; exact ⟨w, readLittle_append rest hw⟩
  | fixed32 => obtain ⟨w, hw⟩ := h; exact ⟨w, readLittle_append rest hw⟩
  | bytes => obtain ⟨p, hp⟩ := h; exact ⟨p, readBytes_append rest hp⟩
  | startGroup => exact h.elim
  | endGroup => exact h.elim
  | reserved => exact h.elim

theorem GroupSpan.append {depth num : Nat} {bs r : Bytes} (rest : Bytes)
    (h : GroupSpan depth num bs r) : GroupSpan depth num (bs ++ rest) (r ++ rest) := by
  induction h with
  | close ht => exact .close (readTag_append rest ht)
  | scalar ht hs _ ih => exact .scalar (readTag_append rest ht) (hs.append rest) ih
  | group ht _ _ ihin ihout => exact .group (readTag_append rest ht) ihin ihout

theorem ValueSpan.append {depth num : Nat} {t : WireType} {bs r : Bytes} (rest : Bytes)
    (h : ValueSpan depth num t bs r) : ValueSpan depth num t (bs ++ rest) (r ++ rest) := by
  rcases h with h | ⟨ht, d, hd, h⟩
  · exact .inl (h.append rest)
  · exact .inr ⟨ht, d, hd, h.append rest⟩

/-! ## Unknown fields -/

/-- The field numbers a message's reader knows, each with the wire type it expects. -/
abbrev Schema := List (Nat × WireType)

/-- A vector: the doubles 1 and 2. -/
def vecSchema : Schema := [(1, .fixed64), (2, .fixed64)]

/-- A pedestrian: the identifiers 1 to 3 and flags 7 to 9 as varints, the vectors 4 to 6 as
length-delimited payloads. -/
def entrySchema : Schema :=
  [(1, .varint), (2, .varint), (3, .varint), (4, .bytes), (5, .bytes), (6, .bytes),
    (7, .varint), (8, .varint), (9, .varint)]

/-- A frame: tick 1 and epoch 3 as varints, time 2 as a double, the integrator 4 and the
pedestrians 5 as length-delimited payloads. -/
def frameSchema : Schema := [(1, .varint), (2, .fixed64), (3, .varint), (4, .bytes), (5, .bytes)]

/-- `x` is one whole field of the grammar that a message of `schema` does not know: a tag whose
number and wire type are not in the schema, then a complete value, groups nested at most `depth`
deep. -/
def UnknownField (schema : Schema) (depth : Nat) (x : Bytes) : Prop :=
  ∃ num t mid, readTag x = .ok ((num, t), mid) ∧ (num, t) ∉ schema ∧ ValueSpan depth num t mid []

/-- The fields `pieces`, in order, with fields that `extra` admits inserted before, between and
after them. -/
inductive Interleaved (extra : Bytes → Prop) : List Bytes → Bytes → Prop
  | nil : Interleaved extra [] []
  /-- The next field of the message. -/
  | keep {p : Bytes} {ps : List Bytes} {bs : Bytes} :
      Interleaved extra ps bs → Interleaved extra (p :: ps) (p ++ bs)
  /-- An inserted field. -/
  | insert {x : Bytes} {ps : List Bytes} {bs : Bytes} :
      extra x → Interleaved extra ps bs → Interleaved extra ps (x ++ bs)

/-- The fields of a vector message, as the writer emits them. -/
def FrameVec.pieces (v : FrameVec) : List Bytes := [doubleField 1 v.x, doubleField 2 v.y]

/-- The fields of a pedestrian message, its vectors written as `pos`, `vel` and `force`. -/
def FrameEntry.piecesWith (p : FrameEntry) (pos vel force : Bytes) : List Bytes :=
  [varintField 1 p.id.toUInt64, varintField 2 p.group.toUInt64, varintField 3 p.crowd.toUInt64,
    bytesField 4 pos, bytesField 5 vel, bytesField 6 force, boolField 7 p.waiting,
    boolField 8 p.lost, boolField 9 p.finished]

/-- The scalar fields that open a frame message. -/
def Frame.headPieces (f : Frame) : List Bytes :=
  [varintField 1 f.tick, doubleField 2 f.time, varintField 3 f.epoch,
    if f.integrator.isEmpty then [] else bytesField 4 f.integrator]

/-- A vector message with unknown fields inserted. -/
def VecPadded (depth : Nat) (v : FrameVec) (bs : Bytes) : Prop :=
  Interleaved (UnknownField vecSchema depth) v.pieces bs

/-- A pedestrian message with unknown fields inserted, in it and in its vectors. -/
def EntryPadded (depth : Nat) (p : FrameEntry) (bs : Bytes) : Prop :=
  ∃ pos vel force, VecPadded depth p.position pos ∧ VecPadded depth p.velocity vel ∧
    VecPadded depth p.force force ∧
    Interleaved (UnknownField entrySchema depth) (p.piecesWith pos vel force) bs

/-- A frame message with unknown fields inserted at its top level and in every pedestrian and
vector it holds. -/
def FramePadded (depth : Nat) (f : Frame) (bs : Bytes) : Prop :=
  ∃ bodies, List.Forall₂ (EntryPadded depth) f.entries bodies ∧
    Interleaved (UnknownField frameSchema depth) (f.headPieces ++ bodies.map (bytesField 5)) bs

/-! ## Unknown fields are stepped over -/

theorem Interleaved.length_le {extra : Bytes → Prop} {ps : List Bytes} {bs : Bytes}
    (h : Interleaved extra ps bs) : ∀ p ∈ ps, p.length ≤ bs.length := by
  induction h with
  | nil => simp
  | keep _ ih =>
    intro p hp
    rcases List.mem_cons.mp hp with rfl | hp
    · simp
    · have := ih p hp
      simp only [List.length_append]
      omega
  | insert _ _ ih =>
    intro p hp
    have := ih p hp
    simp only [List.length_append]
    omega

/-- A field the reader does not use, stepped over to the end of its value. -/
theorem skipField_value {σ : Type} {num : Nat} {t : WireType} {mid : Bytes}
    (hv : ValueSpan (groupDepth + 1) num t mid []) (rest : Bytes) (s : σ) :
    skipField num t (mid ++ rest) s = .ok (s, rest) := by
  have hskip : skip num t (mid ++ rest) = .ok rest :=
    (skip_ok_iff _ num t (mid ++ rest) rest).mpr (by simpa using hv.append rest)
  simp [skipField, hskip, atField, bind, Except.bind, pure, Except.pure]

section Skipping

variable {σ : Type} {step : Nat → Nat → WireType → Bytes → σ → Except FrameError (σ × Bytes)}

/-- `step` passes over every whole field outside `schema`, leaving the record as it was. -/
def IgnoresUnknown (step : Nat → Nat → WireType → Bytes → σ → Except FrameError (σ × Bytes))
    (schema : Schema) : Prop :=
  ∀ fuel num t mid rest s, (num, t) ∉ schema → ValueSpan (groupDepth + 1) num t mid [] →
    step fuel num t (mid ++ rest) s = .ok (s, rest)

/-- An unknown field reads as no change. -/
theorem PieceReads.unknown {schema : Schema} (hig : IgnoresUnknown step schema) {x : Bytes}
    (hx : UnknownField schema (groupDepth + 1) x) : PieceReads step x fun s => s := by
  obtain ⟨num, t, mid, htag, hnot, hv⟩ := hx
  intro fuel s rest hf
  have hlen := readTag_length htag
  obtain ⟨f, rfl⟩ : ∃ f, fuel = f + 1 := ⟨fuel - 1, by omega⟩
  refine ⟨f, by omega, ?_⟩
  have hne : x ++ rest ≠ [] := by
    have hx : x ≠ [] := List.ne_nil_of_length_pos (by omega)
    simp [hx]
  rw [readFields_succ hne f s, readTag_append rest htag]
  simp only [bind, Except.bind, hig f num t mid rest s hnot hv]

/-- Inserted fields that read as no change leave the reading of a message's own fields as it is:
fields read as updates read, in order, as the updates one after the other. -/
theorem Interleaved.reads {extra : Bytes → Prop} (hx : ∀ x, extra x → PieceReads step x fun s => s)
    {ps : List Bytes} {bs : Bytes} (h : Interleaved extra ps bs) :
    ∀ {us : List (σ → σ)}, List.Forall₂ (PieceReads step) ps us →
      PieceReads step bs (us.foldr (fun u acc => acc ∘ u) id) := by
  induction h with
  | nil =>
    intro us hus
    cases hus
    exact PieceReads.nil
  | keep _ ih =>
    intro us hus
    cases hus with
    | cons hp hrest => exact hp.append (ih hrest)
  | insert hxe _ ih =>
    intro us hus
    exact ((hx _ hxe).append (ih hus)).congr fun _ => rfl

end Skipping

theorem vecField_ignores : IgnoresUnknown vecField vecSchema := by
  intro fuel num t mid rest v hnot hv
  have hk : ¬ (t == .fixed64 && (num == 1 || num == 2)) = true := by
    intro hk
    apply hnot
    simp only [Bool.and_eq_true, beq_iff_eq, Bool.or_eq_true] at hk
    obtain ⟨rfl, rfl | rfl⟩ := hk <;> simp [vecSchema]
  rw [vecField, if_neg hk]
  exact skipField_value hv rest v

/-- A varint of a number without a varint meaning leaves a pedestrian as it is. -/
theorem FrameEntry.setVarint_unknown (p : FrameEntry) {num : Nat} (w : UInt64)
    (h : (num, WireType.varint) ∉ entrySchema) : p.setVarint num w = p := by
  unfold FrameEntry.setVarint
  split <;> simp_all [entrySchema]

theorem entryField_ignores : IgnoresUnknown entryField entrySchema := by
  intro fuel num t mid rest p hnot hv
  unfold entryField
  split_ifs with hvar hb
  · -- every varint is read, and one of an unknown number is dropped
    have ht : t = .varint := by simpa using hvar
    subst ht
    obtain ⟨w, hw⟩ := (ValueSpan.iff_scalar (by decide)).mp hv
    simp [atField, readVarint_append rest hw, bind, Except.bind, pure, Except.pure,
      p.setVarint_unknown w hnot]
  · exfalso
    apply hnot
    simp only [Bool.and_eq_true, beq_iff_eq, Bool.or_eq_true] at hb
    obtain ⟨rfl, (rfl | rfl) | rfl⟩ := hb <;> simp [entrySchema]
  · exact skipField_value hv rest p

theorem frameField_ignores : IgnoresUnknown frameField frameSchema := by
  intro fuel num t mid rest f hnot hv
  -- each field the frame reads is one of its schema
  have hknown : ∀ n w, (n, w) ∈ frameSchema → ¬ (num == n && t == w) = true := by
    intro n w hmem hk
    simp only [Bool.and_eq_true, beq_iff_eq] at hk
    obtain ⟨rfl, rfl⟩ := hk
    exact hnot hmem
  unfold frameField
  split_ifs with h1 h2 h3 h4 h5
  · exact absurd h1 (hknown 1 .varint (by simp [frameSchema]))
  · exact absurd h2 (hknown 2 .fixed64 (by simp [frameSchema]))
  · exact absurd h3 (hknown 3 .varint (by simp [frameSchema]))
  · exact absurd h4 (hknown 4 .bytes (by simp [frameSchema]))
  · exact absurd h5 (hknown 5 .bytes (by simp [frameSchema]))
  · exact skipField_value hv rest f

/-! ## Vectors, pedestrians and frames with unknown fields -/

theorem vecX_reads (w : UInt64) :
    PieceReads vecField (doubleField 1 w) fun r => if isZeroWord w then r else { r with x := w } :=
  PieceReads.doubleField 1 (by decide) (by decide) w _ fun fuel s rest => by
    simp [vecField, atField, readFixed64_fixed64, bind, Except.bind, pure, Except.pure]

theorem vecY_reads (w : UInt64) :
    PieceReads vecField (doubleField 2 w) fun r => if isZeroWord w then r else { r with y := w } :=
  PieceReads.doubleField 2 (by decide) (by decide) w _ fun fuel s rest => by
    simp [vecField, atField, readFixed64_fixed64, bind, Except.bind, pure, Except.pure]

/-- **A vector with unknown fields reads as the vector**, its zeros unsigned. -/
theorem VecPadded.decodeWith {v : FrameVec} {bs : Bytes} (h : VecPadded (groupDepth + 1) v bs)
    {fuel : Nat} (hf : bs.length < fuel) : FrameVec.decodeWith fuel bs = .ok v.unsignZeros := by
  have hreads := Interleaved.reads (fun _ hx => PieceReads.unknown vecField_ignores hx) h
    (.cons (vecX_reads v.x) (.cons (vecY_reads v.y) .nil))
  rw [FrameVec.decodeWith, hreads.readFields_eq FrameVec.zero hf]
  simp only [List.foldr, Function.comp, id, FrameVec.zero, FrameVec.unsignZeros, unsignZero]
  split <;> split <;> rfl

/-- A payload written among a message's fields is shorter than the message. -/
theorem Interleaved.payload_lt {extra : Bytes → Prop} {ps : List Bytes} {bs : Bytes}
    (h : Interleaved extra ps bs) {num : Nat} {body : Bytes} (hmem : bytesField num body ∈ ps)
    (hlen : bs.length < 2 ^ 64) : body.length < 2 ^ 64 := by
  have := h.length_le _ hmem
  simp only [bytesField, List.length_append] at this
  omega

theorem entryField_padded (fuel num : Nat) (hnum : num = 4 ∨ num = 5 ∨ num = 6) {v : FrameVec}
    {body : Bytes} (hb : VecPadded (groupDepth + 1) v body) (hlen : body.length < 2 ^ 64)
    (rest : Bytes) (p : FrameEntry) (hf : (varint body.length ++ body ++ rest).length < fuel) :
    entryField fuel num .bytes (varint body.length ++ body ++ rest) p =
      .ok (p.setVec num v.unsignZeros, rest) := by
  have hbody : body.length < fuel := by simp at hf; omega
  have hn : (num == 4 || num == 5 || num == 6) = true := by
    rcases hnum with rfl | rfl | rfl <;> rfl
  simp [entryField, hn, atField, readBytes_bytes _ _ hlen, bind, Except.bind,
    hb.decodeWith hbody, pure, Except.pure]

theorem entryVec_reads (num : Nat) (hnum : num = 4 ∨ num = 5 ∨ num = 6) {v : FrameVec}
    {body : Bytes} (hb : VecPadded (groupDepth + 1) v body) (hlen : body.length < 2 ^ 64) :
    PieceReads entryField (bytesField num body) fun r => r.setVec num v.unsignZeros :=
  PieceReads.bytesField num (by omega) (by rcases hnum with rfl | rfl | rfl <;> decide) body _
    fun fuel s rest hf => entryField_padded fuel num hnum hb hlen rest s hf

theorem entryVarint_reads (num : Nat) (h1 : 1 ≤ num) (h2 : num ≤ maxTagNumber) (w : UInt64) :
    PieceReads entryField (varintField num w) fun r => if w = 0 then r else r.setVarint num w :=
  PieceReads.varintField num h1 h2 w _ fun fuel s rest => entryField_varint fuel num w rest s

theorem entryFlag_reads (num : Nat) (h1 : 1 ≤ num) (h2 : num ≤ maxTagNumber) (b : Bool) :
    PieceReads entryField (boolField num b) fun r => if b then r.setVarint num 1 else r :=
  PieceReads.boolField num h1 h2 b _ fun fuel s rest => entryField_flag fuel num rest s

/-- What the fields of a pedestrian message do, in order, to the record they are read into. -/
def FrameEntry.pieceUpdates (p : FrameEntry) : List (FrameEntry → FrameEntry) :=
  [fun r => if p.id.toUInt64 = 0 then r else r.setVarint 1 p.id.toUInt64,
    fun r => if p.group.toUInt64 = 0 then r else r.setVarint 2 p.group.toUInt64,
    fun r => if p.crowd.toUInt64 = 0 then r else r.setVarint 3 p.crowd.toUInt64,
    fun r => r.setVec 4 p.position.unsignZeros, fun r => r.setVec 5 p.velocity.unsignZeros,
    fun r => r.setVec 6 p.force.unsignZeros, fun r => if p.waiting then r.setVarint 7 1 else r,
    fun r => if p.lost then r.setVarint 8 1 else r,
    fun r => if p.finished then r.setVarint 9 1 else r]

/-- The fields of a message written with nothing inserted. -/
theorem Interleaved.flatten (extra : Bytes → Prop) : ∀ ps : List Bytes, Interleaved extra ps ps.flatten
  | [] => .nil
  | p :: ps => by
    rw [List.flatten_cons]
    exact .keep (Interleaved.flatten extra ps)

theorem VecPadded.encode (depth : Nat) (v : FrameVec) : VecPadded depth v v.encode := by
  have h := Interleaved.flatten (UnknownField vecSchema depth) v.pieces
  simpa [VecPadded, FrameVec.pieces, FrameVec.encode] using h

theorem EntryPadded.encode (depth : Nat) (p : FrameEntry) : EntryPadded depth p p.encode := by
  refine ⟨_, _, _, VecPadded.encode depth _, VecPadded.encode depth _, VecPadded.encode depth _, ?_⟩
  have h := Interleaved.flatten (UnknownField entrySchema depth)
    (p.piecesWith p.position.encode p.velocity.encode p.force.encode)
  simpa [FrameEntry.piecesWith, FrameEntry.encode] using h

/-- A pedestrian message with unknown fields reads as its own fields' updates, which depend on the
pedestrian alone. -/
theorem EntryPadded.reads {p : FrameEntry} {bs : Bytes} (h : EntryPadded (groupDepth + 1) p bs)
    (hlen : bs.length < 2 ^ 64) :
    PieceReads entryField bs (p.pieceUpdates.foldr (fun u acc => acc ∘ u) id) := by
  obtain ⟨pos, vel, force, hpos, hvel, hforce, hbs⟩ := h
  exact Interleaved.reads (fun _ hx => PieceReads.unknown entryField_ignores hx) hbs
    (.cons (entryVarint_reads 1 (by decide) (by decide) p.id.toUInt64)
    (.cons (entryVarint_reads 2 (by decide) (by decide) p.group.toUInt64)
    (.cons (entryVarint_reads 3 (by decide) (by decide) p.crowd.toUInt64)
    (.cons (entryVec_reads 4 (by decide) hpos
      (hbs.payload_lt (show bytesField 4 pos ∈ _ by simp [FrameEntry.piecesWith]) hlen))
    (.cons (entryVec_reads 5 (by decide) hvel
      (hbs.payload_lt (show bytesField 5 vel ∈ _ by simp [FrameEntry.piecesWith]) hlen))
    (.cons (entryVec_reads 6 (by decide) hforce
      (hbs.payload_lt (show bytesField 6 force ∈ _ by simp [FrameEntry.piecesWith]) hlen))
    (.cons (entryFlag_reads 7 (by decide) (by decide) p.waiting)
    (.cons (entryFlag_reads 8 (by decide) (by decide) p.lost)
    (.cons (entryFlag_reads 9 (by decide) (by decide) p.finished) .nil)))))))))

/-- **A pedestrian with unknown fields reads as the pedestrian**, in it and in its vectors, its
zeros unsigned: the same updates as the message written without them. -/
theorem EntryPadded.decodeWith {p : FrameEntry} {bs : Bytes} (h : EntryPadded (groupDepth + 1) p bs)
    (hlen : bs.length < 2 ^ 64) {fuel : Nat} (hf : bs.length < fuel) :
    FrameEntry.decodeWith fuel bs = .ok p.unsignZeros := by
  have hplain := p.decodeWith_encode (Nat.lt_succ_self _)
  have hshort : p.encode.length < 2 ^ 64 := by have := p.encode_length_le; omega
  rw [FrameEntry.decodeWith, ((EntryPadded.encode _ p).reads hshort).readFields_eq _
    (Nat.lt_succ_self _)] at hplain
  rw [FrameEntry.decodeWith, (h.reads hlen).readFields_eq FrameEntry.empty hf, hplain]

/-- What the fields of a frame message do, in order, to the record they are read into. -/
def Frame.pieceUpdates (f : Frame) : List (Frame → Frame) :=
  [fun r => if f.tick = 0 then r else { r with tick := f.tick },
    fun r => if isZeroWord f.time then r else { r with time := f.time },
    fun r => if f.epoch = 0 then r else { r with epoch := f.epoch },
    fun r => if f.integrator.isEmpty then r else { r with integrator := f.integrator }] ++
    f.entries.map fun p r => { r with entries := r.entries ++ [p.unsignZeros] }

theorem frameEntry_reads {p : FrameEntry} {body : Bytes} (hb : EntryPadded (groupDepth + 1) p body)
    (hlen : body.length < 2 ^ 64) :
    PieceReads frameField (bytesField 5 body) fun r => { r with entries := r.entries ++ [p.unsignZeros] } :=
  PieceReads.bytesField 5 (by decide) (by decide) body _ fun fuel s rest hf => by
    have hbody : body.length < fuel := by simp at hf; omega
    simp [frameField, atField, readBytes_bytes _ _ hlen, bind, Except.bind, hb.decodeWith hlen hbody,
      pure, Except.pure]

theorem entries_reads_padded {ps : List FrameEntry} {bodies : List Bytes}
    (h : List.Forall₂ (EntryPadded (groupDepth + 1)) ps bodies)
    (hshort : ∀ b ∈ bodies, b.length < 2 ^ 64) :
    List.Forall₂ (PieceReads frameField) (bodies.map (bytesField 5))
      (ps.map fun p r => { r with entries := r.entries ++ [p.unsignZeros] }) := by
  induction h with
  | nil => exact .nil
  | cons hp _ ih =>
    exact .cons (frameEntry_reads hp (hshort _ (by simp)))
      (ih fun b hb => hshort b (List.mem_cons_of_mem _ hb))

/-- The fields of a frame, its pedestrians written as `bodies`, read as the frame's updates. -/
theorem frame_pieces_read {f : Frame} {bodies : List Bytes}
    (hb : List.Forall₂ (EntryPadded (groupDepth + 1)) f.entries bodies)
    (hshort : ∀ b ∈ bodies, b.length < 2 ^ 64) (hint : f.integrator.length < 2 ^ 64) :
    List.Forall₂ (PieceReads frameField) (f.headPieces ++ bodies.map (bytesField 5))
      f.pieceUpdates := by
  have htick : PieceReads frameField (varintField 1 f.tick)
      fun r => if f.tick = 0 then r else { r with tick := f.tick } :=
    PieceReads.varintField 1 (by decide) (by decide) f.tick _ fun fuel s rest => by
      simpa using frameField_varint fuel 1 (by decide) f.tick rest s
  have htime : PieceReads frameField (doubleField 2 f.time)
      fun r => if isZeroWord f.time then r else { r with time := f.time } :=
    PieceReads.doubleField 2 (by decide) (by decide) f.time _ fun fuel s rest =>
      frameField_time fuel _ rest s
  have hepoch : PieceReads frameField (varintField 3 f.epoch)
      fun r => if f.epoch = 0 then r else { r with epoch := f.epoch } :=
    PieceReads.varintField 3 (by decide) (by decide) f.epoch _ fun fuel s rest => by
      simpa using frameField_varint fuel 3 (by decide) f.epoch rest s
  have hintegrator : PieceReads frameField
      (if f.integrator.isEmpty then [] else bytesField 4 f.integrator)
      fun r => if f.integrator.isEmpty then r else { r with integrator := f.integrator } := by
    by_cases he : f.integrator.isEmpty
    · simp only [he, if_true]
      exact PieceReads.nil
    · simp only [he, Bool.false_eq_true, if_false]
      exact PieceReads.bytesField 4 (by decide) (by decide) _ _
        fun fuel s rest _ => frameField_integrator fuel _ hint rest s
  exact List.rel_append (.cons htick (.cons htime (.cons hepoch (.cons hintegrator .nil))))
    (entries_reads_padded hb hshort)

theorem Frame.encode_eq_flatten (f : Frame) :
    f.encode = (f.headPieces ++ (f.entries.map FrameEntry.encode).map (bytesField 5)).flatten := by
  simp [Frame.headPieces, Frame.encode, List.flatMap, Function.comp_def]

/-- Frame bytes whose fields are the frame's own, with unknown fields among them, read as the
frame's updates applied to the empty frame. -/
theorem decode_interleaved {f : Frame} {bodies : List Bytes} {bs : Bytes}
    (hb : List.Forall₂ (EntryPadded (groupDepth + 1)) f.entries bodies)
    (hshort : ∀ b ∈ bodies, b.length < 2 ^ 64) (hint : f.integrator.length < 2 ^ 64)
    (hbs : Interleaved (UnknownField frameSchema (groupDepth + 1))
      (f.headPieces ++ bodies.map (bytesField 5)) bs) :
    Frame.decode bs = .ok (f.pieceUpdates.foldr (fun u acc => acc ∘ u) id Frame.empty) :=
  (Interleaved.reads (fun _ hx => PieceReads.unknown frameField_ignores hx) hbs
    (frame_pieces_read hb hshort hint)).readFields_eq Frame.empty (Nat.lt_succ_self _)

/-! ## Frames with unknown fields -/

/-- **Unknown fields are skipped.** Into a frame's bytes insert any number of whole fields of the
grammar, each with a number or a wire type outside its message's schema and groups nested at most
`groupDepth + 1` deep, at the top level or among the fields of any pedestrian or vector payload
(whose length is written anew). The bytes decode to the same frame as the frame's own bytes: the
frame with its zeros unsigned. -/
theorem decode_skips_unknown_fields (f : Frame) (bs : Bytes)
    (hp : FramePadded (groupDepth + 1) f bs) (hlen : bs.length < 2 ^ 64) :
    Frame.decode bs = Frame.decode f.encode ∧ Frame.decode bs = .ok f.unsignZeros := by
  obtain ⟨bodies, hbodies, hbs⟩ := hp
  -- every payload lies inside the bytes, so its length is a varint
  have hshort : ∀ b ∈ bodies, b.length < 2 ^ 64 := fun b hb =>
    hbs.payload_lt (List.mem_append_right _ (List.mem_map_of_mem hb)) hlen
  have hint : f.integrator.length < 2 ^ 64 := by
    by_cases he : f.integrator.isEmpty
    · simp [List.isEmpty_iff.mp he]
    · exact hbs.payload_lt (show bytesField 4 f.integrator ∈ _ by simp [Frame.headPieces, he]) hlen
  -- the frame's own bytes are the same fields with nothing inserted
  have hplain : Frame.decode f.encode = Frame.decode bs := by
    rw [decode_interleaved hbodies hshort hint hbs, Frame.encode_eq_flatten]
    refine decode_interleaved
      (List.forall₂_map_right_iff.mpr (List.forall₂_same.mpr fun p _ => EntryPadded.encode _ p))
      (fun b hb => ?_) hint (Interleaved.flatten _ _)
    obtain ⟨p, -, rfl⟩ := List.mem_map.mp hb
    have := p.encode_length_le
    omega
  exact ⟨hplain.symm, hplain.symm.trans (f.decode_encode hint)⟩

/-- Fields inserted after the last one. -/
theorem Interleaved.append_insert {extra : Bytes → Prop} {ps : List Bytes} {bs x : Bytes}
    (h : Interleaved extra ps bs) (hx : extra x) : Interleaved extra ps (bs ++ x) := by
  induction h with
  | nil => simpa using Interleaved.insert hx .nil
  | keep _ ih => simpa using ih.keep
  | insert hy _ ih => simpa using ih.insert hy

/-- A frame's bytes followed by an unknown field: the frame with that field inserted. -/
theorem FramePadded.append_unknown {depth : Nat} (f : Frame) {x : Bytes}
    (hx : UnknownField frameSchema depth x) : FramePadded depth f (f.encode ++ x) := by
  refine ⟨f.entries.map FrameEntry.encode,
    List.forall₂_map_right_iff.mpr (List.forall₂_same.mpr fun p _ => EntryPadded.encode depth p), ?_⟩
  rw [Frame.encode_eq_flatten]
  exact (Interleaved.flatten _ _).append_insert hx

/-- The reader's own example: the frame of tick 5 followed by a field 99 holding the text
`future`, which no frame reader knows, reads as the frame of tick 5. -/
theorem decode_skips_unknown_fields_after_tick :
    let f : Frame := { Frame.empty with tick := 5 }
    let x : Bytes := [0x9A, 0x06, 0x06, 0x66, 0x75, 0x74, 0x75, 0x72, 0x65]
    FramePadded (groupDepth + 1) f (f.encode ++ x) ∧ (f.encode ++ x).length < 2 ^ 64 ∧
      Frame.decode (f.encode ++ x) = Frame.decode f.encode ∧
      Frame.decode (f.encode ++ x) = .ok f.unsignZeros := by
  intro f x
  have hx : UnknownField frameSchema (groupDepth + 1) x :=
    ⟨99, .bytes, x.drop 2, rfl, by decide, .inl ⟨_, rfl⟩⟩
  have hp := FramePadded.append_unknown f hx
  have hlen : (f.encode ++ x).length < 2 ^ 64 := by decide +kernel
  exact ⟨hp, hlen, decode_skips_unknown_fields f (f.encode ++ x) hp hlen⟩

theorem readTag_tick (rest : Bytes) : readTag (0x08 :: rest) = .ok ((1, .varint), rest) := rfl

theorem readTag_startGroup_99 (rest : Bytes) :
    readTag (0x9B :: 0x06 :: rest) = .ok ((99, .startGroup), rest) := rfl

theorem readTag_endGroup_99 (rest : Bytes) :
    readTag (0x9C :: 0x06 :: rest) = .ok ((99, .endGroup), rest) := rfl

/-- **An unknown group nested one level deeper is refused.** The frame of tick 5 followed by one
unknown field, a group of field 99 that holds ten thousand and one groups of field 1 one inside
the other, is the frame with a whole unknown field inserted, its groups nested
`groupDepth + 2` deep; its bytes fail to decode, while the frame's own bytes decode to it. -/
theorem decode_refuses_deep_unknown_group :
    let f : Frame := { Frame.empty with tick := 5 }
    let x : Bytes := 0x9B :: 0x06 :: 0x0B :: (nestedGroups 10000 ++ [0x9C, 0x06])
    FramePadded (groupDepth + 2) f (f.encode ++ x) ∧
      (∃ e, Frame.decode (f.encode ++ x) = .error e) ∧ Frame.decode f.encode = .ok f := by
  intro f x
  have hdepth : groupDepth = 10000 := rfl
  have henc : f.encode = [0x08, 0x05] := by decide +kernel
  -- the group of field 99 closes, ten thousand and one groups of field 1 inside it
  have hgroup : GroupSpan 10001 99 (0x0B :: (nestedGroups 10000 ++ [0x9C, 0x06])) [] :=
    .group (readTag_startGroup_one _) (groupSpan_nestedGroups 10000 10000 le_rfl _)
      (.close (readTag_endGroup_99 []))
  have hx : UnknownField frameSchema (groupDepth + 2) x :=
    ⟨99, .startGroup, _, readTag_startGroup_99 _, by decide, .inr ⟨rfl, 10001, rfl, hgroup⟩⟩
  -- the reader admits groups nested `groupDepth + 1` deep: the body of the group of field 99
  -- would have to hold ten thousand and one levels within ten thousand
  have hnot : ¬ FrameMessage (groupDepth + 1) (f.encode ++ x) := by
    rw [henc]
    intro h
    cases h with
    | payload ht _ _ _ => rw [List.cons_append, readTag_tick] at ht; cases ht
    | value ht _ hv hrest =>
      rw [List.cons_append, readTag_tick] at ht
      cases ht
      obtain ⟨v, hv⟩ := (ValueSpan.iff_scalar (by decide)).mp hv
      rw [show readVarint ([0x05] ++ x) = .ok (5, x) from rfl] at hv
      cases hv
      rw [show x = 0x9B :: 0x06 :: 0x0B :: (nestedGroups 10000 ++ [0x9C, 0x06]) from rfl] at hrest
      cases hrest with
      | payload ht _ _ _ => rw [readTag_startGroup_99] at ht; cases ht
      | value ht _ hv _ =>
        rw [readTag_startGroup_99] at ht
        cases ht
        rcases hv with hs | ⟨-, d, hd, hin⟩
        · exact hs
        · cases hin with
          | close ht => rw [readTag_startGroup_one] at ht; cases ht
          | scalar ht hs _ =>
            rw [readTag_startGroup_one] at ht
            cases ht
            exact hs
          | group ht hin _ =>
            rw [readTag_startGroup_one] at ht
            cases ht
            have := le_of_groupSpan_nestedGroups hin
            omega
  refine ⟨FramePadded.append_unknown f hx, ?_, by rw [henc]; rfl⟩
  cases hdec : Frame.decode (f.encode ++ x) with
  | error e => exact ⟨e, rfl⟩
  | ok g => exact absurd ((Frame.decode_ok_iff _).mp ⟨g, hdec⟩) hnot

end CrowdSim
