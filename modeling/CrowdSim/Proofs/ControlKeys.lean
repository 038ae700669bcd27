import Mathlib
import CrowdSim.Broadcast.Server
import CrowdSim.Proofs.StatusRoundTrip

/-!
# What a control message sets

A control message is a record read by the protocol buffer library, from its binary form or its
JSON form; the settings are then taken from the record one key at a time, in the order in which
a walk over the record's map meets its keys. That order is not fixed, so the reading is stated
for every order of the keys (`ControlSettings.ofKeys`); the program's own walk is one of them
(`ControlSettings.ofStruct_eq_ofKeys`).

Three keys are read: `integrator` must hold a string, `paused` a boolean and `time_scale` a
number (`ControlSettings.Suits`); every other key is passed over. Whatever the order:

* the reading fails exactly when one of the three keys holds a value of another kind
  (`ControlSettings.Misfit`), and then with the error of the first such key the walk meets
  (`ControlSettings.ofKeys_eq_error_iff`);
* otherwise it gives the values of the three keys, an absent key leaving its setting empty
  (`ControlSettings.ofKeys_eq_ok_iff`).

So whether a message is refused, and the settings of one that is not, do not depend on the
order; the error's text does, when two keys hold values of the wrong kind
(`ControlSettings.misfit_message_follows_walk_order`).
-/

namespace CrowdSim

open Protobuf

namespace Protobuf

/-- The value a record gives a key: that of its last entry with the key, or no value at all. -/
def Struct.valueOf (st : Struct) (key : String) : Value := (st.get? key).getD .unset

/-- The text of a string value; empty for any other. -/
def Value.textOr : Value → String
  | .text s => s
  | _ => ""

/-- The truth value of a boolean value. -/
def Value.flag? : Value → Option Bool
  | .flag b => some b
  | _ => none

/-- The number of a number value. -/
def Value.number? : Value → Option Float
  | .number x => some x
  | _ => none

/-- A key of the record is one with an entry. -/
theorem Struct.mem_keys_iff (st : Struct) (key : String) :
    key ∈ st.keys ↔ ∃ v, st.get? key = some v := by
  rw [Struct.keys, List.mem_eraseDups, List.mem_map, ← Option.isSome_iff_exists, Struct.get?,
    Option.isSome_map, List.find?_isSome]
  simp

/-- A key without an entry has no value. -/
theorem Struct.valueOf_of_not_mem {st : Struct} {key : String} (h : key ∉ st.keys) :
    st.valueOf key = .unset := by
  rw [Struct.mem_keys_iff, not_exists] at h
  cases hv : st.get? key with
  | none => simp [Struct.valueOf, hv]
  | some v => exact absurd hv (h v)

end Protobuf

namespace ControlSettings

/-- The value has the kind the key needs: a string for `integrator`, a boolean for `paused` and
a number for `time_scale`; any value suits another key. -/
def Suits (key : String) (v : Value) : Prop :=
  (key = "integrator" → ∃ s, v = .text s) ∧ (key = "paused" → ∃ b, v = .flag b) ∧
    (key = "time_scale" → ∃ x, v = .number x)

/-- The record gives the key a value of another kind than it needs. -/
def Misfit (st : Struct) (key : String) : Prop := ∃ v, st.get? key = some v ∧ ¬ Suits key v

/-- The kind a key needs, as its error names it. -/
def kindName (key : String) : String :=
  if key = "integrator" then "a string"
  else if key = "paused" then "a bool"
  else "a number"

/-- The settings a record names: the string of `integrator`, the boolean of `paused` and the
number of `time_scale`, each empty when the key is absent. -/
def named (st : Struct) : ControlSettings :=
  ⟨(st.valueOf "integrator").textOr, (st.valueOf "paused").flag?, (st.valueOf "time_scale").number?⟩

/-- The reading of a record whose keys are met in `order`. -/
def ofKeys (st : Struct) (order : List String) : Except ControlError ControlSettings :=
  order.foldlM (fun cs key => cs.take key (st.valueOf key)) ControlSettings.none

/-- The program walks the keys in the order their first entries were read. -/
theorem ofStruct_eq_ofKeys (st : Struct) : ofStruct st = ofKeys st st.keys := rfl

/-! ## One key -/

/-- Taking a key fails exactly when its value does not suit it, with the error naming the key
and the kind it needs. -/
theorem take_eq_error_iff (cs : ControlSettings) (key : String) (v : Value) (e : ControlError) :
    cs.take key v = .error e ↔ ¬ Suits key v ∧ e = .wrongKind key (kindName key) := by
  unfold take Suits kindName
  by_cases hi : key = "integrator"
  · subst hi
    cases v <;> simp [eq_comm]
  by_cases hp : key = "paused"
  · subst hp
    cases v <;> simp [eq_comm]
  by_cases ht : key = "time_scale"
  · subst ht
    cases v <;> simp [eq_comm]
  simp [hi, hp, ht]

/-- Taking a key whose value suits it sets the one setting the key names, if any. -/
theorem take_of_suits (cs : ControlSettings) {key : String} {v : Value} (h : Suits key v) :
    cs.take key v = .ok ⟨if key = "integrator" then v.textOr else cs.integrator,
      if key = "paused" then v.flag? else cs.paused,
      if key = "time_scale" then v.number? else cs.timeScale⟩ := by
  obtain ⟨hi, hp, ht⟩ := h
  unfold take
  by_cases hi' : key = "integrator"
  · subst hi'
    obtain ⟨s, rfl⟩ := hi rfl
    simp [Value.textOr]
  by_cases hp' : key = "paused"
  · subst hp'
    obtain ⟨b, rfl⟩ := hp rfl
    simp [Value.flag?]
  by_cases ht' : key = "time_scale"
  · subst ht'
    obtain ⟨x, rfl⟩ := ht rfl
    simp [Value.number?]
  simp [hi', hp', ht']

/-! ## A walk over the keys -/

section Walk

variable (st : Struct)

/-- The walk fails exactly at the first key whose value does not suit it. -/
theorem foldlM_take_eq_error_iff :
    ∀ (order : List String) (cs : ControlSettings) (e : ControlError),
      order.foldlM (fun cs key => cs.take key (st.valueOf key)) cs = .error e ↔
        ∃ pre key post, order = pre ++ key :: post ∧ (∀ k ∈ pre, Suits k (st.valueOf k)) ∧
          ¬ Suits key (st.valueOf key) ∧ e = .wrongKind key (kindName key)
  | [], cs, e => by simp [pure, Except.pure]
  | k :: rest, cs, e => by
    rw [List.foldlM_cons]
    by_cases hk : Suits k (st.valueOf k)
    · -- the first key passes: the walk fails where the rest of it does
      rw [take_of_suits cs hk]
      change List.foldlM _ _ rest = _ ↔ _
      rw [foldlM_take_eq_error_iff rest]
      constructor
      · rintro ⟨pre, key, post, rfl, hpre, hkey, rfl⟩
        refine ⟨k :: pre, key, post, rfl, ?_, hkey, rfl⟩
        simpa [hk] using hpre
      · rintro ⟨pre, key, post, horder, hpre, hkey, rfl⟩
        cases pre with
        | nil =>
          obtain ⟨rfl, -⟩ := List.cons.inj horder
          exact absurd hk hkey
        | cons k' pre =>
          obtain ⟨rfl, rfl⟩ := List.cons.inj horder
          exact ⟨pre, key, post, rfl, fun j hj => hpre j (List.mem_cons_of_mem _ hj), hkey, rfl⟩
    · -- the first key fails: so does the walk, naming it
      have hstep : cs.take k (st.valueOf k) = .error (.wrongKind k (kindName k)) :=
        (take_eq_error_iff _ _ _ _).mpr ⟨hk, rfl⟩
      rw [hstep]
      change Except.error _ = _ ↔ _
      constructor
      · intro h
        cases h
        exact ⟨[], k, rest, rfl, by simp, hk, rfl⟩
      · rintro ⟨pre, key, post, horder, hpre, hkey, rfl⟩
        cases pre with
        | nil =>
          obtain ⟨rfl, -⟩ := List.cons.inj horder
          rfl
        | cons k' pre =>
          obtain ⟨rfl, -⟩ := List.cons.inj horder
          exact absurd (hpre _ List.mem_cons_self) hk

/-- A walk whose keys' values all suit them sets each of the three settings to the value of its
key, if the walk meets the key, and leaves it otherwise. A key met twice is set twice to the same
value. -/
theorem foldlM_take_of_suits :
    ∀ (order : List String) (cs : ControlSettings), (∀ k ∈ order, Suits k (st.valueOf k)) →
      order.foldlM (fun cs key => cs.take key (st.valueOf key)) cs =
        .ok ⟨if "integrator" ∈ order then (st.valueOf "integrator").textOr else cs.integrator,
          if "paused" ∈ order then (st.valueOf "paused").flag? else cs.paused,
          if "time_scale" ∈ order then (st.valueOf "time_scale").number? else cs.timeScale⟩
  | [], cs, _ => by simp [pure, Except.pure]
  | k :: rest, cs, hsuits => by
    rw [List.foldlM_cons, take_of_suits cs (hsuits k List.mem_cons_self)]
    change List.foldlM _ _ rest = _
    rw [foldlM_take_of_suits rest _ fun j hj => hsuits j (List.mem_cons_of_mem _ hj)]
    simp only [List.mem_cons]
    congr 2 <;> split_ifs <;> simp_all

/-- A walk that meets a key whose value does not suit it fails. -/
theorem foldlM_take_ne_ok :
    ∀ (order : List String) (cs c : ControlSettings), (∃ k ∈ order, ¬ Suits k (st.valueOf k)) →
      order.foldlM (fun cs key => cs.take key (st.valueOf key)) cs ≠ .ok c
  | [], _, _, ⟨_, hk, _⟩ => absurd hk List.not_mem_nil
  | k :: rest, cs, c, ⟨j, hj, hbad⟩ => by
    rw [List.foldlM_cons]
    by_cases hk : Suits k (st.valueOf k)
    · -- the bad key comes later
      rw [take_of_suits cs hk]
      have hj' : j ∈ rest := (List.mem_cons.mp hj).resolve_left fun h => hbad (h ▸ hk)
      exact foldlM_take_ne_ok rest _ c ⟨j, hj', hbad⟩
    · rw [(take_eq_error_iff _ _ _ _).mpr ⟨hk, rfl⟩]
      exact fun h => nomatch h

end Walk

/-! ## Every order of the keys -/

section Orders

variable {st : Struct} {order : List String}

/-- Over the keys of the record, a key suits its value exactly when the record does not misfit
it. -/
theorem suits_iff_not_misfit (horder : order.Perm st.keys) {k : String} (hk : k ∈ order) :
    Suits k (st.valueOf k) ↔ ¬ Misfit st k := by
  obtain ⟨v, hv⟩ := (Struct.mem_keys_iff st k).mp (horder.mem_iff.mp hk)
  simp [Misfit, Struct.valueOf, hv]

/-- A key the record lacks is never misfit. -/
theorem not_misfit_of_not_mem (horder : order.Perm st.keys) {k : String} (hk : k ∉ order) :
    ¬ Misfit st k := by
  rintro ⟨v, hv, -⟩
  exact hk (horder.mem_iff.mpr ((Struct.mem_keys_iff st k).mpr ⟨v, hv⟩))

/-- **In every order, the reading fails exactly at the first misfit key it meets.** -/
theorem ofKeys_eq_error_iff (horder : order.Perm st.keys) (e : ControlError) :
    ofKeys st order = .error e ↔
      ∃ pre key post, order = pre ++ key :: post ∧ (∀ k ∈ pre, ¬ Misfit st k) ∧ Misfit st key ∧
        e = .wrongKind key (kindName key) := by
  rw [ofKeys, foldlM_take_eq_error_iff]
  constructor
  · rintro ⟨pre, key, post, rfl, hpre, hkey, rfl⟩
    refine ⟨pre, key, post, rfl, fun k hk => ?_, ?_, rfl⟩
    · exact (suits_iff_not_misfit horder (by simp [hk])).mp (hpre k hk)
    · exact (suits_iff_not_misfit horder (by simp)).not_left.mp hkey
  · rintro ⟨pre, key, post, rfl, hpre, hkey, rfl⟩
    refine ⟨pre, key, post, rfl, fun k hk => ?_, ?_, rfl⟩
    · exact (suits_iff_not_misfit horder (by simp [hk])).mpr (hpre k hk)
    · exact (suits_iff_not_misfit horder (by simp)).not_left.mpr hkey

/-- **In every order, the reading succeeds exactly when no key is misfit, and then gives the
settings the record names.** -/
theorem ofKeys_eq_ok_iff (horder : order.Perm st.keys) (cs : ControlSettings) :
    ofKeys st order = .ok cs ↔ (∀ key, ¬ Misfit st key) ∧ cs = named st := by
  by_cases hall : ∀ k ∈ order, Suits k (st.valueOf k)
  · have hfit : ∀ key, ¬ Misfit st key := fun key => by
      by_cases hk : key ∈ order
      · exact (suits_iff_not_misfit horder hk).mp (hall key hk)
      · exact not_misfit_of_not_mem horder hk
    -- an absent key has no value, whose reading is the empty setting
    have hnamed : (⟨if "integrator" ∈ order then (st.valueOf "integrator").textOr else "",
        if "paused" ∈ order then (st.valueOf "paused").flag? else Option.none,
        if "time_scale" ∈ order then (st.valueOf "time_scale").number? else Option.none⟩ :
          ControlSettings) = named st := by
      have habsent : ∀ k, k ∉ order → st.valueOf k = .unset := fun k hk =>
        Struct.valueOf_of_not_mem (mt horder.mem_iff.mpr hk)
      simp only [named]
      congr 1 <;> rw [ite_eq_left_iff] <;> intro h <;>
        simp [habsent _ h, Value.textOr, Value.flag?, Value.number?]
    rw [ofKeys, foldlM_take_of_suits st order _ hall]
    simp only [ControlSettings.none]
    rw [hnamed]
    simp [hfit, eq_comm]
  · simp only [not_forall, exists_prop] at hall
    obtain ⟨k, hk, hbad⟩ := hall
    have hmis : Misfit st k := (suits_iff_not_misfit horder hk).not_left.mp hbad
    simp only [show ¬ ∀ key, ¬ Misfit st key from fun h => h k hmis, false_and, iff_false]
    exact foldlM_take_ne_ok st order _ cs ⟨k, hk, hbad⟩

end Orders

/-- Two keys holding values of the wrong kind: the walk that meets `integrator` first reports
it, the walk that meets `paused` first reports that one. -/
theorem misfit_message_follows_walk_order :
    ["paused", "integrator"].Perm (Struct.keys [("integrator", .number 1), ("paused", .text "yes")]) ∧
      (ofKeys [("integrator", .number 1), ("paused", .text "yes")] ["integrator", "paused"]).mapError
          ControlError.message = .error "bad control message: integrator must be a string" ∧
      (ofKeys [("integrator", .number 1), ("paused", .text "yes")] ["paused", "integrator"]).mapError
          ControlError.message = .error "bad control message: paused must be a bool" :=
  ⟨List.Perm.swap _ _ _, rfl, rfl⟩

end ControlSettings

/-- The record the protocol buffer library reads from a control message: the JSON form of a text
message, the binary form of a binary one. -/
def ControlMessage.record : ControlMessage → Except StructError Struct
  | .text s => Struct.ofText s
  | .binary bs => Struct.decode bs

/-- A message the library reads is decoded by walking the keys of its record. -/
theorem ControlMessage.decode_of_record {msg : ControlMessage} {st : Struct}
    (h : msg.record = .ok st) : msg.decode = ControlSettings.ofKeys st st.keys := by
  cases msg with
  | text s =>
    simp only [record] at h
    simp [decode, ControlSettings.decodeText, h, ControlSettings.ofStruct_eq_ofKeys]
  | binary bs =>
    simp only [record] at h
    simp [decode, ControlSettings.decode, h, ControlSettings.ofStruct_eq_ofKeys]

/-- **A control message sets exactly its three keys, in every order of the walk.** For every
message, binary or text, that the library reads as a record: the program decodes it by walking
the record's keys; and a walk in any order of those keys fails exactly when one of `integrator`,
`paused`, `time_scale` holds a value other than a string, a boolean, a number respectively,
naming the first such key it meets, and otherwise gives those keys' values, absent keys empty and
every other key ignored. -/
theorem control_message_sets_its_three_keys (msg : ControlMessage) {st : Struct}
    (hread : msg.record = .ok st) :
    msg.decode = ControlSettings.ofKeys st st.keys ∧
      ∀ order : List String, order.Perm st.keys →
        (∀ cs, ControlSettings.ofKeys st order = .ok cs ↔
          (∀ key, ¬ ControlSettings.Misfit st key) ∧ cs = ControlSettings.named st) ∧
        (∀ e, ControlSettings.ofKeys st order = .error e ↔
          ∃ pre key post, order = pre ++ key :: post ∧
            (∀ k ∈ pre, ¬ ControlSettings.Misfit st k) ∧ ControlSettings.Misfit st key ∧
            e = .wrongKind key (ControlSettings.kindName key)) :=
  ⟨ControlMessage.decode_of_record hread, fun _ horder =>
    ⟨ControlSettings.ofKeys_eq_ok_iff horder, ControlSettings.ofKeys_eq_error_iff horder⟩⟩

/-- The binary form of the record that sets the integrator to `euler`, and only that. -/
theorem control_message_sets_euler :
    (ControlMessage.binary (Struct.encode [("integrator", .text "euler")])).record =
        .ok [("integrator", .text "euler")] ∧
      ((ControlMessage.binary (Struct.encode [("integrator", .text "euler")])).decode =
          ControlSettings.ofKeys [("integrator", .text "euler")]
            (Struct.keys [("integrator", .text "euler")]) ∧
        ∀ order : List String, order.Perm (Struct.keys [("integrator", .text "euler")]) →
          (∀ cs, ControlSettings.ofKeys [("integrator", .text "euler")] order = .ok cs ↔
            (∀ key, ¬ ControlSettings.Misfit [("integrator", .text "euler")] key) ∧
              cs = ControlSettings.named [("integrator", .text "euler")]) ∧
          (∀ e, ControlSettings.ofKeys [("integrator", .text "euler")] order = .error e ↔
            ∃ pre key post, order = pre ++ key :: post ∧
              (∀ k ∈ pre, ¬ ControlSettings.Misfit [("integrator", .text "euler")] k) ∧
              ControlSettings.Misfit [("integrator", .text "euler")] key ∧
              e = .wrongKind key (ControlSettings.kindName key))) := by
  have hread : (ControlMessage.binary (Struct.encode [("integrator", .text "euler")])).record =
      .ok [("integrator", .text "euler")] :=
    Struct.decode_encode _ (by simp [Value.isScalar]) (by decide +kernel)
  exact ⟨hread, control_message_sets_its_three_keys _ hread⟩

end CrowdSim
