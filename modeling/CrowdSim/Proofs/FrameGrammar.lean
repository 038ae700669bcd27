import Mathlib
import CrowdSim.Proofs.FrameRoundTrip

/-!
# Which bytes are a frame

A message on the wire is a sequence of fields, each a tag and then a value whose extent the tag's
wire type fixes; a group runs from its start tag to the end tag of the same number, and groups
nest. This module states that grammar as relations on bytes, with the primitive readers
(`readTag`, `readVarint`, `readLittle`, `readBytes`) as its terminals:

* `ScalarSpan t bs rest`: a varint, eight or four bytes, or a length-prefixed string;
* `GroupSpan depth num bs rest`: the fields of group `num` and its end tag, with the groups inside
  it nested at most `depth` deep;
* `Message depth inner bs`: fields to the end of the bytes, the payload `p` of each
  length-delimited field `num` meeting `inner num p`.

A frame is a message whose length-delimited fields 5 hold pedestrian messages, in which the
length-delimited fields 4, 5 and 6 hold vector messages (`FrameMessage`); no other payload is
looked into. The reader steps over a value it does not use as the grammar says (`skip_ok_iff`),
and reads the fields of a message as the grammar says (`readFields_ok_iff`), so:

* `frame_decode_fails_iff_malformed`: decoding fails exactly when the bytes are not a frame whose
  skipped groups nest at most `groupDepth + 1` deep, and every failure reports a malformed frame;
* `frame_decode_refuses_deep_groups`: ten thousand and two matched groups, one inside the other,
  are refused.
-/

namespace CrowdSim

open Protobuf

/-! ## The grammar -/

/-- A value of scalar wire type `t` at the front of `bs`, followed by `rest`. -/
def ScalarSpan (t : WireType) (bs rest : Bytes) : Prop :=
  match t with
  | .varint => ∃ v, readVarint bs = .ok (v, rest)
  | .fixed64 => ∃ w, readLittle 8 bs = .ok (w, rest)
  | .fixed32 => ∃ w, readLittle 4 bs = .ok (w, rest)
  | .bytes => ∃ p, readBytes bs = .ok (p, rest)
  | _ => False

/-- The fields of group `num` at the front of `bs` up to and including its end tag, followed by
`rest`; the groups inside it nest at most `depth` deep. -/
inductive GroupSpan : Nat → Nat → Bytes → Bytes → Prop
  /-- The end tag of the group. -/
  | close {depth num : Nat} {bs rest : Bytes} :
      readTag bs = .ok ((num, .endGroup), rest) → GroupSpan depth num bs rest
  /-- A field of scalar type, then the rest of the group. -/
  | scalar {depth num num' : Nat} {t : WireType} {bs mid next rest : Bytes} :
      readTag bs = .ok ((num', t), mid) → ScalarSpan t mid next → GroupSpan depth num next rest →
      GroupSpan depth num bs rest
  /-- A group one level down, then the rest of the group. -/
  | group {depth num num' : Nat} {bs mid next rest : Bytes} :
      readTag bs = .ok ((num', .startGroup), mid) → GroupSpan depth num' mid next →
      GroupSpan (depth + 1) num next rest → GroupSpan (depth + 1) num bs rest

/-- The value of field `num` of wire type `t` at the front of `bs`, followed by `rest`, with
groups nested at most `depth` deep. -/
def ValueSpan (depth num : Nat) (t : WireType) (bs rest : Bytes) : Prop :=
  ScalarSpan t bs rest ∨ (t = .startGroup ∧ ∃ d, depth = d + 1 ∧ GroupSpan d num bs rest)

/-- A message: fields to the end of the bytes. The value of a field that is not length-delimited
is stepped over; the payload `p` of a length-delimited field `num` meets `inner num p`. -/
inductive Message (depth : Nat) (inner : Nat → Bytes → Prop) : Bytes → Prop
  | nil : Message depth inner []
  | value {bs mid next : Bytes} {num : Nat} {t : WireType} :
      readTag bs = .ok ((num, t), mid) → t ≠ .bytes → ValueSpan depth num t mid next →
      Message depth inner next → Message depth inner bs
  | payload {bs mid p next : Bytes} {num : Nat} :
      readTag bs = .ok ((num, .bytes), mid) → readBytes mid = .ok (p, next) → inner num p →
      Message depth inner next → Message depth inner bs

/-- A vector message. -/
def VecMessage (depth : Nat) : Bytes → Prop := Message depth fun _ _ => True

/-- A pedestrian message: its length-delimited fields 4, 5 and 6 hold vector messages. -/
def EntryMessage (depth : Nat) : Bytes → Prop :=
  Message depth fun num p => (num = 4 ∨ num = 5 ∨ num = 6) → VecMessage depth p

/-- A frame message: its length-delimited fields 5 hold pedestrian messages. -/
def FrameMessage (depth : Nat) : Bytes → Prop :=
  Message depth fun num p => num = 5 → EntryMessage depth p

/-! ## Every field takes bytes -/

theorem except_bind_eq_ok_iff {ε α β : Type} {x : Except ε α} {f : α → Except ε β} {b : β} :
    x >>= f = .ok b ↔ ∃ a, x = .ok a ∧ f a = .ok b := by
  cases x with
  | error e => simp [bind, Except.bind]
  | ok a => simp [bind, Except.bind]

theorem readVarintFrom_length {i acc : Nat} {bs rest : Bytes} {v : UInt64}
    (h : readVarintFrom i acc bs = .ok (v, rest)) : rest.length < bs.length := by
  induction bs generalizing i acc with
  | nil => simp [readVarintFrom] at h
  | cons b bs ih =>
    unfold readVarintFrom at h
    split_ifs at h
    · cases h; simp
    · cases h; simp
    · exact Nat.lt_succ_of_lt (ih h)

theorem readVarint_length {bs rest : Bytes} {v : UInt64} (h : readVarint bs = .ok (v, rest)) :
    rest.length < bs.length :=
  readVarintFrom_length h

/-- The tags a reader accepts: a varint whose field number lies between one and `maxTagNumber`. -/
theorem readTag_eq_ok_iff {bs rest : Bytes} {num : Nat} {t : WireType} :
    readTag bs = .ok ((num, t), rest) ↔ ∃ v, readVarint bs = .ok (v, rest) ∧
      num = v.toNat / 8 ∧ 1 ≤ num ∧ num ≤ maxTagNumber ∧ t = WireType.ofCode v.toNat := by
  unfold readTag
  rw [except_bind_eq_ok_iff]
  constructor
  · rintro ⟨⟨v, r⟩, hv, hk⟩
    dsimp only at hk
    -- a refused field number is an error, never a tag
    split_ifs at hk with hnum
    simp only [pure, Except.pure, Except.ok.injEq, Prod.mk.injEq] at hk
    obtain ⟨⟨rfl, rfl⟩, rfl⟩ := hk
    simp only [Bool.or_eq_true, decide_eq_true_eq, not_or, not_lt] at hnum
    exact ⟨v, hv, rfl, hnum.1, hnum.2, rfl⟩
  · rintro ⟨v, hv, rfl, h1, h2, rfl⟩
    refine ⟨(v, rest), hv, ?_⟩
    dsimp only
    rw [if_neg (by simp; omega)]
    rfl

theorem readTag_length {bs rest : Bytes} {num : Nat} {t : WireType}
    (h : readTag bs = .ok ((num, t), rest)) : rest.length < bs.length := by
  obtain ⟨v, hv, -⟩ := readTag_eq_ok_iff.mp h
  exact readVarint_length hv

theorem readLittle_length {n : Nat} {bs rest : Bytes} {w : Nat}
    (h : readLittle n bs = .ok (w, rest)) : rest.length ≤ bs.length := by
  unfold readLittle at h
  split at h
  · cases h
  · cases h; simp

theorem readBytes_length {bs p rest : Bytes} (h : readBytes bs = .ok (p, rest)) :
    p.length < bs.length ∧ rest.length < bs.length := by
  unfold readBytes at h
  obtain ⟨⟨len, r⟩, hv, hk⟩ := except_bind_eq_ok_iff.mp h
  have hr := readVarint_length hv
  dsimp only at hk
  split_ifs at hk with hfit
  simp only [pure, Except.pure, Except.ok.injEq, Prod.mk.injEq] at hk
  obtain ⟨rfl, rfl⟩ := hk
  simp only [List.length_take, List.length_drop]
  omega

theorem ScalarSpan.length_le {t : WireType} {bs rest : Bytes} (h : ScalarSpan t bs rest) :
    rest.length ≤ bs.length := by
  cases t with
  | varint => obtain ⟨_, hv⟩ := h; exact (readVarint_length hv).le
  | fixed64 => obtain ⟨_, hw⟩ := h; exact readLittle_length hw
  | fixed32 => obtain ⟨_, hw⟩ := h; exact readLittle_length hw
  | bytes => obtain ⟨_, hp⟩ := h; exact (readBytes_length hp).2.le
  | startGroup => exact h.elim
  | endGroup => exact h.elim
  | reserved => exact h.elim

theorem GroupSpan.length_lt {depth num : Nat} {bs rest : Bytes} (h : GroupSpan depth num bs rest) :
    rest.length < bs.length := by
  induction h with
  | close ht => exact readTag_length ht
  | scalar ht hs _ ih => have := readTag_length ht; have := hs.length_le; omega
  | group ht _ _ ih₁ ih₂ => have := readTag_length ht; omega

theorem ValueSpan.length_le {depth num : Nat} {t : WireType} {bs rest : Bytes}
    (h : ValueSpan depth num t bs rest) : rest.length ≤ bs.length := by
  rcases h with h | ⟨-, d, -, h⟩
  · exact h.length_le
  · exact h.length_lt.le

/-! ## Stepping over a value -/

theorem ScalarSpan.ne_startGroup {t : WireType} {bs rest : Bytes} (h : ScalarSpan t bs rest) :
    t ≠ .startGroup := by
  rintro rfl
  exact h

theorem ScalarSpan.ne_endGroup {t : WireType} {bs rest : Bytes} (h : ScalarSpan t bs rest) :
    t ≠ .endGroup := by
  rintro rfl
  exact h

/-- A value of any type but a group is stepped over as the grammar says, at any fuel and depth. -/
theorem skipValue_ok_iff_scalar (fuel depth num : Nat) {t : WireType} (ht : t ≠ .startGroup)
    (bs rest : Bytes) : skipValue fuel depth num t bs = .ok rest ↔ ScalarSpan t bs rest := by
  cases t with
  | varint =>
    simp only [skipValue, ScalarSpan, except_bind_eq_ok_iff, pure, Except.pure, Except.ok.injEq]
    constructor
    · rintro ⟨⟨v, r⟩, hv, rfl⟩; exact ⟨v, hv⟩
    · rintro ⟨v, hv⟩; exact ⟨(v, rest), hv, rfl⟩
  | fixed64 =>
    simp only [skipValue, ScalarSpan, except_bind_eq_ok_iff, pure, Except.pure, Except.ok.injEq]
    constructor
    · rintro ⟨⟨w, r⟩, hw, rfl⟩; exact ⟨w, hw⟩
    · rintro ⟨w, hw⟩; exact ⟨(w, rest), hw, rfl⟩
  | fixed32 =>
    simp only [skipValue, ScalarSpan, except_bind_eq_ok_iff, pure, Except.pure, Except.ok.injEq]
    constructor
    · rintro ⟨⟨w, r⟩, hw, rfl⟩; exact ⟨w, hw⟩
    · rintro ⟨w, hw⟩; exact ⟨(w, rest), hw, rfl⟩
  | bytes =>
    simp only [skipValue, ScalarSpan, except_bind_eq_ok_iff, pure, Except.pure, Except.ok.injEq]
    constructor
    · rintro ⟨⟨p, r⟩, hp, rfl⟩; exact ⟨p, hp⟩
    · rintro ⟨p, hp⟩; exact ⟨(p, rest), hp, rfl⟩
  | startGroup => exact absurd rfl ht
  | endGroup => simp [skipValue, ScalarSpan]
  | reserved => simp [skipValue, ScalarSpan]

/-- What stepping over the rest of a group does: read a tag, and either close the group on its
own end tag, or step over the value and go on. -/
theorem skipGroup_succ_ok_iff (fuel depth num : Nat) (bs rest : Bytes) :
    skipGroup (fuel + 1) depth num bs = .ok rest ↔
      ∃ num' t mid, readTag bs = .ok ((num', t), mid) ∧
        ((t = .endGroup ∧ num' = num ∧ mid = rest) ∨
          (t ≠ .endGroup ∧ ∃ next, skipValue fuel depth num' t mid = .ok next ∧
            skipGroup fuel depth num next = .ok rest)) := by
  rw [skipGroup, except_bind_eq_ok_iff]
  constructor
  · rintro ⟨⟨⟨num', t⟩, mid⟩, htag, hk⟩
    refine ⟨num', t, mid, htag, ?_⟩
    dsimp only at hk
    -- an end tag of another group is an error
    split_ifs at hk with hend hnum
    · simp only [pure, Except.pure, Except.ok.injEq] at hk
      exact .inl ⟨by simpa using hend, by simpa using hnum, hk⟩
    · obtain ⟨next, hv, hg⟩ := except_bind_eq_ok_iff.mp hk
      exact .inr ⟨by simpa using hend, next, hv, hg⟩
  · rintro ⟨num', t, mid, htag, hcase⟩
    refine ⟨((num', t), mid), htag, ?_⟩
    dsimp only
    rcases hcase with ⟨rfl, rfl, rfl⟩ | ⟨hend, next, hv, hg⟩
    · simp [pure, Except.pure]
    · have hend' : (t == .endGroup) = false := by simpa using hend
      simp only [hend', Bool.false_eq_true, if_false]
      exact except_bind_eq_ok_iff.mpr ⟨next, hv, hg⟩

/-- **Stepping over is sound**: whatever value or group body the skipper steps over is one of
the grammar, at every fuel. -/
theorem skip_sound (fuel : Nat) :
    (∀ {depth num t bs rest}, skipValue fuel depth num t bs = .ok rest →
      ValueSpan depth num t bs rest) ∧
    (∀ {depth num bs rest}, skipGroup fuel depth num bs = .ok rest →
      GroupSpan depth num bs rest) := by
  induction fuel with
  | zero =>
    refine ⟨fun {depth num t bs rest} h => ?_, fun h => by simp [skipGroup] at h⟩
    by_cases ht : t = .startGroup
    · subst ht
      simp [skipValue] at h
    · exact .inl ((skipValue_ok_iff_scalar 0 depth num ht bs rest).mp h)
  | succ fuel ih =>
    refine ⟨fun {depth num t bs rest} h => ?_, fun {depth num bs rest} h => ?_⟩
    · by_cases ht : t = .startGroup
      · -- a group opens only while the depth allows one more level
        subst ht
        cases depth with
        | zero => simp [skipValue] at h
        | succ d => exact .inr ⟨rfl, d, rfl, ih.2 h⟩
      · exact .inl ((skipValue_ok_iff_scalar _ depth num ht bs rest).mp h)
    · obtain ⟨num', t, mid, htag, hcase⟩ := (skipGroup_succ_ok_iff fuel depth num bs rest).mp h
      rcases hcase with ⟨rfl, rfl, rfl⟩ | ⟨-, next, hv, hg⟩
      · exact .close htag
      · rcases ih.1 hv with hs | ⟨rfl, d, rfl, hin⟩
        · exact .scalar htag hs (ih.2 hg)
        · exact .group htag hin (ih.2 hg)

/-- **Stepping over is complete**: a group body of the grammar is stepped over whenever the fuel
exceeds twice its length. -/
theorem skipGroup_complete {depth num : Nat} {bs rest : Bytes} (h : GroupSpan depth num bs rest) :
    ∀ fuel, 2 * bs.length < fuel → skipGroup fuel depth num bs = .ok rest := by
  induction h with
  | close htag =>
    intro fuel hf
    obtain ⟨f, rfl⟩ : ∃ f, fuel = f + 1 := ⟨fuel - 1, by omega⟩
    exact (skipGroup_succ_ok_iff _ _ _ _ _).mpr ⟨_, _, _, htag, .inl ⟨rfl, rfl, rfl⟩⟩
  | @scalar depth num num' t bs mid next rest htag hs _ ih =>
    intro fuel hf
    obtain ⟨f, rfl⟩ : ∃ f, fuel = f + 1 := ⟨fuel - 1, by omega⟩
    have h1 := readTag_length htag
    have h2 := hs.length_le
    have hv : skipValue f depth num' t mid = .ok next :=
      (skipValue_ok_iff_scalar _ _ _ hs.ne_startGroup _ _).mpr hs
    exact (skipGroup_succ_ok_iff _ _ _ _ _).mpr
      ⟨_, _, _, htag, .inr ⟨hs.ne_endGroup, next, hv, ih f (by omega)⟩⟩
  | @group depth num num' bs mid next rest htag hin _ ihin ihout =>
    intro fuel hf
    obtain ⟨f, rfl⟩ : ∃ f, fuel = f + 1 := ⟨fuel - 1, by omega⟩
    have h1 := readTag_length htag
    have h2 := hin.length_lt
    -- the group inside takes one fuel to open, and then at most twice its bytes
    obtain ⟨f', rfl⟩ : ∃ f', f = f' + 1 := ⟨f - 1, by omega⟩
    have hv : skipValue (f' + 1) (depth + 1) num' .startGroup mid = .ok next :=
      ihin f' (by omega)
    exact (skipGroup_succ_ok_iff _ _ _ _ _).mpr
      ⟨_, _, _, htag, .inr ⟨by simp, next, hv, ihout (f' + 1) (by omega)⟩⟩

/-- **The skipper steps over exactly the values of the grammar**, groups nested at most `depth`
deep, with the fuel it is given. -/
theorem skip_ok_iff (depth num : Nat) (t : WireType) (bs rest : Bytes) :
    skipValue (2 * bs.length + 2) depth num t bs = .ok rest ↔ ValueSpan depth num t bs rest := by
  refine ⟨(skip_sound _).1, ?_⟩
  rintro (hs | ⟨rfl, d, rfl, hg⟩)
  · exact (skipValue_ok_iff_scalar _ _ _ hs.ne_startGroup _ _).mpr hs
  · exact skipGroup_complete hg _ (by omega)

/-! ## One field -/

/-- What one field of a message spans after its tag: a value stepped over, or a length-delimited
payload that `inner` accepts. -/
def FieldSpan (depth : Nat) (inner : Nat → Bytes → Prop) (num : Nat) (t : WireType)
    (mid next : Bytes) : Prop :=
  (t ≠ .bytes ∧ ValueSpan depth num t mid next) ∨
    (t = .bytes ∧ ∃ p, readBytes mid = .ok (p, next) ∧ inner num p)

theorem FieldSpan.length_le {depth num : Nat} {inner : Nat → Bytes → Prop} {t : WireType}
    {mid next : Bytes} (h : FieldSpan depth inner num t mid next) : next.length ≤ mid.length := by
  rcases h with ⟨-, hv⟩ | ⟨-, p, hp, -⟩
  · exact hv.length_le
  · exact (readBytes_length hp).2.le

theorem ValueSpan.iff_scalar {depth num : Nat} {t : WireType} (ht : t ≠ .startGroup)
    {mid next : Bytes} : ValueSpan depth num t mid next ↔ ScalarSpan t mid next := by
  simp [ValueSpan, ht]

theorem FieldSpan.iff_value {depth num : Nat} {inner : Nat → Bytes → Prop} {t : WireType}
    (ht : t ≠ .bytes) {mid next : Bytes} :
    FieldSpan depth inner num t mid next ↔ ValueSpan depth num t mid next := by
  simp [FieldSpan, ht]

theorem FieldSpan.iff_payload {depth num : Nat} {inner : Nat → Bytes → Prop} {mid next : Bytes} :
    FieldSpan depth inner num .bytes mid next ↔ ∃ p, readBytes mid = .ok (p, next) ∧ inner num p := by
  simp [FieldSpan]

/-- A field that a reader skips: the grammar's own value, its payload looked into by nothing. -/
theorem skipField_reads {σ : Type} {inner : Nat → Bytes → Prop} (num : Nat) (t : WireType)
    (mid next : Bytes) (s : σ) (hinner : t = .bytes → ∀ p, inner num p) :
    (∃ s', skipField num t mid s = .ok (s', next)) ↔
      FieldSpan (groupDepth + 1) inner num t mid next := by
  have hskip : (∃ s', skipField num t mid s = .ok (s', next)) ↔
      ValueSpan (groupDepth + 1) num t mid next := by
    rw [← skip_ok_iff]
    unfold skipField skip
    cases skipValue (2 * mid.length + 2) (groupDepth + 1) num t mid <;>
      simp [atField, bind, Except.bind, pure, Except.pure]
  rw [hskip]
  by_cases ht : t = .bytes
  · subst ht
    rw [FieldSpan.iff_payload, ValueSpan.iff_scalar (by decide)]
    simp [ScalarSpan, hinner rfl]
  · rw [FieldSpan.iff_value ht]

/-- A field whose reader is bound into a continuation that stores the value read succeeds exactly
when the reader does. -/
theorem atField_bind_store_ok_iff {α σ : Type} (num : Nat) (r : Except WireError (α × Bytes))
    (k : α × Bytes → Except FrameError (σ × Bytes)) (hk : ∀ x, ∃ s', k x = .ok (s', x.2))
    (next : Bytes) :
    (∃ s', (atField num r >>= k) = .ok (s', next)) ↔ ∃ w, r = .ok (w, next) := by
  cases r with
  | error e => simp [atField, bind, Except.bind]
  | ok x =>
    obtain ⟨w, rest⟩ := x
    obtain ⟨s', hs'⟩ := hk (w, rest)
    simp [atField, bind, Except.bind, hs']

/-- A decoded payload stored: it succeeds exactly when the decoding does. -/
theorem bind_store_ok_iff {β σ : Type} (m : Except FrameError β) (g : β → σ) (rest next : Bytes) :
    (∃ s', (m >>= fun p => pure (g p, rest)) = .ok (s', next)) ↔ rest = next ∧ ∃ p, m = .ok p := by
  cases m <;> simp [bind, Except.bind, pure, Except.pure]

/-- A length-delimited field whose payload goes on to a continuation: it succeeds exactly when
the payload is read and the continuation succeeds on it. -/
theorem atField_bind_nested_ok_iff {σ : Type} {P : Bytes → Prop} (num : Nat) (mid next : Bytes)
    (k : Bytes × Bytes → Except FrameError (σ × Bytes))
    (hk : ∀ body rest, readBytes mid = .ok (body, rest) →
      ((∃ s', k (body, rest) = .ok (s', next)) ↔ rest = next ∧ P body)) :
    (∃ s', (atField num (readBytes mid) >>= k) = .ok (s', next)) ↔
      ∃ body, readBytes mid = .ok (body, next) ∧ P body := by
  cases hr : readBytes mid with
  | error e => simp [atField, bind, Except.bind]
  | ok x =>
    obtain ⟨body, rest⟩ := x
    simp only [atField, bind, Except.bind, hk body rest hr]
    simp

theorem readFixed64_ok_iff (bs rest : Bytes) :
    (∃ w, readFixed64 bs = .ok (w, rest)) ↔ ScalarSpan .fixed64 bs rest := by
  unfold readFixed64 ScalarSpan
  cases readLittle 8 bs with
  | error e => simp [bind, Except.bind]
  | ok x =>
    obtain ⟨w, r⟩ := x
    simp [bind, Except.bind, pure, Except.pure]

/-- A varint field read and stored: it succeeds exactly on a varint field of the grammar. -/
theorem varintField_ok_iff {σ : Type} {inner : Nat → Bytes → Prop} (num : Nat) (mid next : Bytes)
    (k : UInt64 × Bytes → Except FrameError (σ × Bytes)) (hk : ∀ x, ∃ s', k x = .ok (s', x.2)) :
    (∃ s', (atField num (readVarint mid) >>= k) = .ok (s', next)) ↔
      FieldSpan (groupDepth + 1) inner num .varint mid next := by
  rw [FieldSpan.iff_value (by decide), ValueSpan.iff_scalar (by decide)]
  exact atField_bind_store_ok_iff num _ k hk next

/-- A fixed64 field read and stored: it succeeds exactly on a fixed64 field of the grammar. -/
theorem fixed64Field_ok_iff {σ : Type} {inner : Nat → Bytes → Prop} (num : Nat) (mid next : Bytes)
    (k : UInt64 × Bytes → Except FrameError (σ × Bytes)) (hk : ∀ x, ∃ s', k x = .ok (s', x.2)) :
    (∃ s', (atField num (readFixed64 mid) >>= k) = .ok (s', next)) ↔
      FieldSpan (groupDepth + 1) inner num .fixed64 mid next := by
  rw [FieldSpan.iff_value (by decide), ValueSpan.iff_scalar (by decide)]
  exact (atField_bind_store_ok_iff num _ k hk next).trans (readFixed64_ok_iff mid next)

/-! ## The fields of a message -/

section Fields

variable {σ : Type} {step : Nat → Nat → WireType → Bytes → σ → Except FrameError (σ × Bytes)}
  {depth : Nat} {inner : Nat → Bytes → Prop}

/-- `step` reads one field as the grammar has it, whenever the fuel exceeds the bytes left. -/
def StepReads (step : Nat → Nat → WireType → Bytes → σ → Except FrameError (σ × Bytes))
    (depth : Nat) (inner : Nat → Bytes → Prop) : Prop :=
  ∀ fuel num t mid next s, mid.length < fuel →
    ((∃ s', step fuel num t mid s = .ok (s', next)) ↔ FieldSpan depth inner num t mid next)

/-- **Reading is complete**: a message of the grammar is read to its end. -/
theorem readFields_ok_of_message (hstep : StepReads step depth inner) {bs : Bytes}
    (h : Message depth inner bs) :
    ∀ fuel s, bs.length < fuel → ∃ s', readFields fuel step s bs = .ok s' := by
  induction h with
  | nil => exact fun fuel s _ => ⟨s, readFields_nil fuel s⟩
  | @value bs mid next num t htag ht hv _ ih =>
    intro fuel s hf
    obtain ⟨f, rfl⟩ : ∃ f, fuel = f + 1 := ⟨fuel - 1, by omega⟩
    have h1 := readTag_length htag
    have h2 := hv.length_le
    obtain ⟨s₁, hs₁⟩ := (hstep f num t mid next s (by omega)).mpr (.inl ⟨ht, hv⟩)
    obtain ⟨s', hs'⟩ := ih f s₁ (by omega)
    refine ⟨s', ?_⟩
    rw [readFields_succ (List.ne_nil_of_length_pos (by omega)) f s, htag]
    exact except_bind_eq_ok_iff.mpr ⟨(s₁, next), hs₁, hs'⟩
  | @payload bs mid p next num htag hp hin _ ih =>
    intro fuel s hf
    obtain ⟨f, rfl⟩ : ∃ f, fuel = f + 1 := ⟨fuel - 1, by omega⟩
    have h1 := readTag_length htag
    have h2 := (readBytes_length hp).2
    obtain ⟨s₁, hs₁⟩ := (hstep f num .bytes mid next s (by omega)).mpr (.inr ⟨rfl, p, hp, hin⟩)
    obtain ⟨s', hs'⟩ := ih f s₁ (by omega)
    refine ⟨s', ?_⟩
    rw [readFields_succ (List.ne_nil_of_length_pos (by omega)) f s, htag]
    exact except_bind_eq_ok_iff.mpr ⟨(s₁, next), hs₁, hs'⟩

/-- **Reading is sound**: bytes read to their end with fuel to spare are a message of the
grammar. -/
theorem message_of_readFields_ok (hstep : StepReads step depth inner) (fuel : Nat) :
    ∀ {s : σ} {bs : Bytes} {s' : σ}, bs.length < fuel → readFields fuel step s bs = .ok s' →
      Message depth inner bs := by
  induction fuel with
  | zero => intro s bs s' hf; omega
  | succ f ih =>
    intro s bs s' hf h
    cases bs with
    | nil => exact .nil
    | cons b bs' =>
      rw [readFields_succ (List.cons_ne_nil b bs') f s] at h
      cases htag : readTag (b :: bs') with
      | error e => rw [htag] at h; cases h
      | ok x =>
        obtain ⟨⟨num, t⟩, mid⟩ := x
        rw [htag] at h
        obtain ⟨⟨s₁, next⟩, hs₁, hrest⟩ := except_bind_eq_ok_iff.mp h
        have h1 := readTag_length htag
        have hspan := (hstep f num t mid next s (by omega)).mp ⟨s₁, hs₁⟩
        have h2 := hspan.length_le
        have hnext := ih (by omega) hrest
        rcases hspan with ⟨ht, hv⟩ | ⟨rfl, p, hp, hin⟩
        · exact .value htag ht hv hnext
        · exact .payload htag hp hin hnext

/-- **A message is read to its end exactly when it is one of the grammar.** -/
theorem readFields_ok_iff (hstep : StepReads step depth inner) {fuel : Nat} (s : σ) {bs : Bytes}
    (hf : bs.length < fuel) :
    (∃ s', readFields fuel step s bs = .ok s') ↔ Message depth inner bs :=
  ⟨fun ⟨_, h⟩ => message_of_readFields_ok hstep fuel hf h,
    fun h => readFields_ok_of_message hstep h fuel s hf⟩

end Fields

/-! ## Vectors, pedestrians and frames -/

/-- A vector field: doubles 1 and 2 are read, everything else stepped over. -/
theorem vecField_reads : StepReads vecField (groupDepth + 1) fun _ _ => True := by
  intro fuel num t mid next v _
  unfold vecField
  by_cases hk : (t == .fixed64 && (num == 1 || num == 2)) = true
  · rw [if_pos hk]
    have ht : t = .fixed64 := by simp at hk; exact hk.1
    subst ht
    exact fixed64Field_ok_iff num mid next _ fun ⟨_, _⟩ => ⟨_, rfl⟩
  · rw [if_neg hk]
    exact skipField_reads num t mid next v fun _ _ => trivial

theorem FrameVec.decodeWith_ok_iff {fuel : Nat} {body : Bytes} (hf : body.length < fuel) :
    (∃ v, FrameVec.decodeWith fuel body = .ok v) ↔ VecMessage (groupDepth + 1) body :=
  readFields_ok_iff vecField_reads FrameVec.zero hf

/-- A pedestrian field: every varint is read, and the payloads of fields 4 to 6 are vectors. -/
theorem entryField_reads : StepReads entryField (groupDepth + 1)
    fun num p => (num = 4 ∨ num = 5 ∨ num = 6) → VecMessage (groupDepth + 1) p := by
  intro fuel num t mid next q hf
  unfold entryField
  split_ifs with hv hb
  · have ht : t = .varint := by simpa using hv
    subst ht
    exact varintField_ok_iff num mid next _ fun ⟨_, _⟩ => ⟨_, rfl⟩
  · obtain ⟨ht, hnum⟩ : t = .bytes ∧ (num = 4 ∨ num = 5 ∨ num = 6) := by
      simpa [or_assoc] using hb
    subst ht
    rw [FieldSpan.iff_payload]
    refine atField_bind_nested_ok_iff num mid next _ fun body rest hbody => ?_
    -- the payload lies inside the field, so the fuel left covers it
    have := (readBytes_length hbody).1
    dsimp only
    rw [bind_store_ok_iff, FrameVec.decodeWith_ok_iff (by omega)]
    simp [hnum]
  · refine skipField_reads num t mid next q fun ht p hnum => absurd hb ?_
    subst ht
    rcases hnum with rfl | rfl | rfl <;> decide

theorem FrameEntry.decodeWith_ok_iff {fuel : Nat} {body : Bytes} (hf : body.length < fuel) :
    (∃ p, FrameEntry.decodeWith fuel body = .ok p) ↔ EntryMessage (groupDepth + 1) body :=
  readFields_ok_iff entryField_reads FrameEntry.empty hf

/-- A frame field: the scalars 1 to 4 of their own wire types are read, the payloads of field 5
are pedestrians, and everything else is stepped over. -/
theorem frameField_reads : StepReads frameField (groupDepth + 1)
    fun num p => num = 5 → EntryMessage (groupDepth + 1) p := by
  intro fuel num t mid next f hf
  unfold frameField
  split_ifs with h1 h2 h3 h4 h5
  · obtain ⟨rfl, rfl⟩ : num = 1 ∧ t = .varint := by simpa using h1
    exact varintField_ok_iff 1 mid next _ fun ⟨_, _⟩ => ⟨_, rfl⟩
  · obtain ⟨rfl, rfl⟩ : num = 2 ∧ t = .fixed64 := by simpa using h2
    exact fixed64Field_ok_iff 2 mid next _ fun ⟨_, _⟩ => ⟨_, rfl⟩
  · obtain ⟨rfl, rfl⟩ : num = 3 ∧ t = .varint := by simpa using h3
    exact varintField_ok_iff 3 mid next _ fun ⟨_, _⟩ => ⟨_, rfl⟩
  · -- the integrator's name: a payload nobody looks into
    obtain ⟨rfl, rfl⟩ : num = 4 ∧ t = .bytes := by simpa using h4
    rw [FieldSpan.iff_payload, atField_bind_store_ok_iff 4 _ _ (fun ⟨_, _⟩ => ⟨_, rfl⟩) next]
    simp
  · obtain ⟨rfl, rfl⟩ : num = 5 ∧ t = .bytes := by simpa using h5
    rw [FieldSpan.iff_payload]
    refine atField_bind_nested_ok_iff 5 mid next _ fun body rest hbody => ?_
    have := (readBytes_length hbody).1
    dsimp only
    rw [bind_store_ok_iff, FrameEntry.decodeWith_ok_iff (by omega)]
    simp
  · refine skipField_reads num t mid next f fun ht p hnum => absurd h5 ?_
    subst ht hnum
    decide

/-- A frame is read exactly when its bytes are a frame message. -/
theorem Frame.decode_ok_iff (bs : Bytes) :
    (∃ f, Frame.decode bs = .ok f) ↔ FrameMessage (groupDepth + 1) bs :=
  readFields_ok_iff frameField_reads Frame.empty (Nat.lt_succ_self _)

/-! ## Malformed frames -/

/-- **Decoding fails exactly on malformed frames.** Decoding a byte string fails exactly when it
is not a frame message: a sequence of fields, each a tag of a field number from one to
`maxTagNumber` and a wire type that carries a value, then a complete value, groups matched by
their end tags and nested at most `groupDepth + 1` deep, with every length-delimited field 5 a
pedestrian message whose length-delimited fields 4, 5 and 6 are vector messages; no other payload
is looked into. Every failure reports a malformed frame. -/
theorem frame_decode_fails_iff_malformed (bs : Bytes) :
    ((∃ e, Frame.decode bs = .error e) ↔ ¬ FrameMessage (groupDepth + 1) bs) ∧
      ∀ e, Frame.decode bs = .error e →
        ∃ detail, e.message = "decode frame: malformed frame: " ++ detail := by
  refine ⟨?_, fun e _ => ⟨_, by unfold FrameError.message; exact String.append_assoc⟩⟩
  rw [← Frame.decode_ok_iff]
  cases Frame.decode bs <;> simp

/-- A tag of field 1 with a varint cut off: a malformed frame, reported at field 1. -/
theorem frame_decode_fails_iff_malformed_on_cut_varint :
    Frame.decode [0x08] = .error ⟨some 1, .truncated⟩ ∧
      ¬ FrameMessage (groupDepth + 1) [0x08] ∧
      ∃ detail, FrameError.message ⟨some 1, .truncated⟩ = "decode frame: malformed frame: " ++ detail := by
  have hdec : Frame.decode [0x08] = .error ⟨some 1, .truncated⟩ := rfl
  obtain ⟨hiff, hmsg⟩ := frame_decode_fails_iff_malformed [0x08]
  exact ⟨hdec, hiff.mp ⟨_, hdec⟩, hmsg _ hdec⟩

/-! ## Groups nested too deep -/

/-- The body of a group of field 1 that holds `k` groups of field 1, each inside the one before:
`k` start tags, then `k + 1` end tags. -/
def nestedGroups (k : Nat) : Bytes := List.replicate k 0x0B ++ List.replicate (k + 1) 0x0C

theorem readTag_startGroup_one (rest : Bytes) :
    readTag (0x0B :: rest) = .ok ((1, .startGroup), rest) := rfl

theorem readTag_endGroup_one (rest : Bytes) :
    readTag (0x0C :: rest) = .ok ((1, .endGroup), rest) := rfl

theorem nestedGroups_succ (k : Nat) (rest : Bytes) :
    nestedGroups (k + 1) ++ rest = 0x0B :: (nestedGroups k ++ 0x0C :: rest) := by
  have h : List.replicate (k + 1 + 1) (0x0C : UInt8) = List.replicate (k + 1) 0x0C ++ [0x0C] :=
    List.replicate_succ'
  rw [nestedGroups, nestedGroups, h]
  simp [List.replicate_succ, List.append_assoc]

/-- Groups nested `k` deep are matched, and a depth of `k` admits them. -/
theorem groupSpan_nestedGroups (k : Nat) :
    ∀ depth, k ≤ depth → ∀ rest, GroupSpan depth 1 (nestedGroups k ++ rest) rest := by
  induction k with
  | zero => exact fun _ _ rest => .close (readTag_endGroup_one rest)
  | succ k ih =>
    intro depth hk rest
    obtain ⟨d, rfl⟩ : ∃ d, depth = d + 1 := ⟨depth - 1, by omega⟩
    rw [nestedGroups_succ]
    exact .group (readTag_startGroup_one _) (ih d (by omega) _) (.close (readTag_endGroup_one rest))

/-- No depth below `k` admits groups nested `k` deep. -/
theorem le_of_groupSpan_nestedGroups {k depth : Nat} {rest rest' : Bytes}
    (h : GroupSpan depth 1 (nestedGroups k ++ rest) rest') : k ≤ depth := by
  induction k generalizing depth rest rest' with
  | zero => omega
  | succ k ih =>
    rw [nestedGroups_succ] at h
    -- the first tag opens a group, so the body can only go one level down
    cases h with
    | close ht => rw [readTag_startGroup_one] at ht; cases ht
    | scalar ht hs _ =>
      rw [readTag_startGroup_one] at ht
      cases ht
      exact hs.elim
    | group ht hin _ =>
      rw [readTag_startGroup_one] at ht
      cases ht
      have := ih hin
      omega

/-- **Matched groups nested ten thousand and two deep are refused.** The bytes are a frame by the
grammar, every group closed by its own end tag, but decoding fails: the reader steps over groups
nested at most `groupDepth + 1` deep. -/
theorem frame_decode_refuses_deep_groups :
    let bs : Bytes := List.replicate 10002 0x0B ++ List.replicate 10002 0x0C
    FrameMessage 10002 bs ∧ ∃ e, Frame.decode bs = .error e := by
  intro bs
  -- rewritten one tag at a time: evaluating the replicas would run ten thousand levels deep
  have hbs : bs = 0x0B :: nestedGroups 10001 := by
    show List.replicate (10001 + 1) 0x0B ++ List.replicate (10001 + 1) 0x0C = _
    rw [List.replicate_succ, List.cons_append]
    rfl
  -- the reader's depth does not reach: the body would need `10001 ≤ groupDepth`
  have hnot : ¬ FrameMessage (groupDepth + 1) bs := by
    intro h
    rw [hbs] at h
    have hdepth : groupDepth = 10000 := rfl
    cases h with
    | value ht _ hv _ =>
      rw [readTag_startGroup_one] at ht
      cases ht
      rcases hv with hs | ⟨-, d, hd, hin⟩
      · exact hs
      · rw [← List.append_nil (nestedGroups 10001)] at hin
        have := le_of_groupSpan_nestedGroups hin
        omega
    | payload ht _ _ _ =>
      rw [readTag_startGroup_one] at ht
      cases ht
  refine ⟨?_, ?_⟩
  · have hbody := groupSpan_nestedGroups 10001 10001 le_rfl []
    rw [List.append_nil] at hbody
    rw [hbs]
    exact .value (readTag_startGroup_one _) (by decide) (.inr ⟨rfl, 10001, rfl, hbody⟩) .nil
  · cases hdec : Frame.decode bs with
    | error e => exact ⟨e, rfl⟩
    | ok f => exact absurd ((Frame.decode_ok_iff bs).mp ⟨f, hdec⟩) hnot

end CrowdSim
