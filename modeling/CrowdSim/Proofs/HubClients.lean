import Mathlib
import CrowdSim.Broadcast.Server

/-!
# Who the hub writes to, in every interleaving

The hub's clients, its handlers and the network change in any interleaving of the server's steps
(`Server.run`). Along every run (`Server.Wf`, kept by every step):

* the clients are exactly the connections whose handler has registered them and not returned, and
  to which no write has failed, each once;
* a broadcast writes its payload once to each client whose peer is there, and closes and drops the
  others (`Server.broadcast_spec`);
* a connection the hub closed after a failed write is never written to again
  (`Server.Wf.run_never_writes_failed`);
* a handler moves only by its own steps (`Server.Wf.step_phase`), so a control message that
  decodes is answered by exactly one status broadcast, of the state the update left, whatever
  happens between the handler's steps (`Server.Wf.message_answered`).

Every status a handler reports is one payload, since the state names a built-in scheme
(`Hub.statusPayloads_of_scheme`). With every peer there, the operations of `Hub` that the program
runs are the steps that make them up run back to back (`Server.control_refines` and the lemmas
beside it).
-/

namespace CrowdSim

/-! ## Status reports -/

theorem Scheme.name_valid (sc : Scheme) : Utf8.valid (Utf8.encode sc.name) = true := by
  cases sc <;> decide +kernel

/-- A control state naming a built-in scheme is reported by one payload. -/
theorem Hub.statusPayloads_of_scheme {st : ControlState}
    (h : ∃ sc : Scheme, st.integrator = sc.name) : ∃ bs, Hub.statusPayloads st = [.status bs] := by
  obtain ⟨sc, hsc⟩ := h
  unfold Hub.statusPayloads Status.encode Status.toStruct
  simp only [Status.ofState, hsc, Scheme.name_valid, if_true]
  exact ⟨_, rfl⟩

theorem Simulation.controlState_named (s : Simulation) :
    ∃ sc : Scheme, s.controlState.integrator = sc.name :=
  ⟨_, rfl⟩

/-- A control update either goes through and reports the state after it, or is refused and
changes nothing. -/
theorem Simulation.applyControl_cases (s : Simulation) (cs : ControlSettings) :
    (s.applyControl cs).2 = .ok (s.applyControl cs).1.controlState ∨
      ∃ e, (s.applyControl cs).2 = .error e ∧ (s.applyControl cs).1 = s := by
  unfold Simulation.applyControl
  dsimp only
  split
  · exact Or.inr ⟨_, rfl, rfl⟩
  · exact Or.inl rfl

/-- The state a control update reports is the simulation's state after it. -/
theorem Hub.answerControl_state (s : Simulation) (cs : ControlSettings) :
    (Hub.answerControl s cs).2 = (Hub.answerControl s cs).1.controlState := by
  unfold Hub.answerControl
  have hcases := Simulation.applyControl_cases s cs
  generalize s.applyControl cs = ac at hcases ⊢
  obtain ⟨s', r⟩ := ac
  rcases hcases with h | ⟨e, h, -⟩ <;> dsimp only at h <;> subst h <;> rfl

/-- A refused update leaves the simulation as it was. -/
theorem Hub.answerControl_of_error {s : Simulation} {cs : ControlSettings} {e : String}
    (h : (s.applyControl cs).2 = .error e) : (Hub.answerControl s cs).1 = s := by
  rcases Simulation.applyControl_cases s cs with h' | ⟨e', -, hs⟩
  · rw [h] at h'
    cases h'
  · unfold Hub.answerControl
    exact hs

/-- The simulation after answering an update is the one the update leaves. -/
theorem Hub.answerControl_fst (s : Simulation) (cs : ControlSettings) :
    (Hub.answerControl s cs).1 = (s.applyControl cs).1 := rfl

/-- A control message that reads is answered with the state after the update. -/
theorem Hub.control_ok (h : Hub) (s : Simulation) (cs : ControlSettings) :
    h.control s (.ok cs) =
      ((Hub.answerControl s cs).1,
        h.deliver (Hub.statusPayloads (Hub.answerControl s cs).1.controlState)) := by
  unfold Hub.control
  rw [← Hub.answerControl_state]

attribute [ext] Hub

/-- The writes a delivery makes, viewer by viewer. -/
def Delivery.writes (d : Delivery) : List Write := d.flatMap fun (v, ps) => ps.map (v, ·)

@[simp] theorem Delivery.writes_deliver (h : Hub) (p : Payload) :
    (h.deliver [p]).writes = h.viewers.map (·, p) := by
  simp only [Delivery.writes, Hub.deliver, List.flatMap_map, List.map_cons, List.map_nil]
  exact List.map_eq_flatMap.symm

@[simp] theorem Delivery.writes_deliver_nil (h : Hub) : (h.deliver []).writes = [] := by
  simp [Delivery.writes, Hub.deliver]

/-- The connection whose handler takes the step, if a handler does. -/
def Event.handler : Event → Option Nat
  | .greet c | .report c | .receive c _ | .apply c | .readFails c => some c
  | .accept | .peerGone _ | .frame | .advance _ => none

namespace Server

/-! ## Broadcasting -/

theorem setLink_links (sv : Server) (c : Nat) (f : Link → Link) (d : Nat) :
    (sv.setLink c f).links d = if d = c then f (sv.links c) else sv.links d := rfl

@[simp] theorem setLink_links_self (sv : Server) (c : Nat) (f : Link → Link) :
    (sv.setLink c f).links c = f (sv.links c) := by
  simp [setLink_links]

/-- Moving a handler leaves every connection closed or open as it was. -/
@[simp] theorem setPhase_failed (sv : Server) (c : Nat) (ph : HandlerPhase) (d : Nat) :
    ((sv.setLink c fun l => { l with phase := ph }).links d).failed = (sv.links d).failed := by
  rw [setLink_links]
  split
  · subst d
    rfl
  · rfl

/-- Moving a handler leaves every peer where it was. -/
@[simp] theorem setPhase_gone (sv : Server) (c : Nat) (ph : HandlerPhase) (d : Nat) :
    ((sv.setLink c fun l => { l with phase := ph }).links d).gone = (sv.links d).gone := by
  rw [setLink_links]
  split
  · subst d
    rfl
  · rfl

@[simp] theorem setLink_hub (sv : Server) (c : Nat) (f : Link → Link) :
    (sv.setLink c f).hub = sv.hub := rfl

@[simp] theorem setLink_sim (sv : Server) (c : Nat) (f : Link → Link) :
    (sv.setLink c f).sim = sv.sim := rfl

@[simp] theorem dropFailed_viewers (sv : Server) (c : Nat) :
    (sv.dropFailed c).hub.viewers = sv.hub.viewers.erase c := rfl

@[simp] theorem dropFailed_next (sv : Server) (c : Nat) :
    (sv.dropFailed c).hub.next = sv.hub.next := rfl

@[simp] theorem dropFailed_sim (sv : Server) (c : Nat) : (sv.dropFailed c).sim = sv.sim := rfl

theorem dropFailed_links (sv : Server) (c d : Nat) :
    (sv.dropFailed c).links d = if d = c then { sv.links c with failed := true } else sv.links d :=
  rfl

/-- The broadcast loop over `l`: it drops the clients of `l` whose peer has gone, marking them
failed, and writes to the others of `l` in order. -/
theorem foldl_writeTo (p : Payload) :
    ∀ (l : List Nat) (sv : Server) (w : List Write), sv.hub.viewers.Nodup →
      (l.foldl (writeTo p) (sv, w)).1.hub.viewers =
          sv.hub.viewers.filter (fun c => !(l.contains c && (sv.links c).gone)) ∧
        (l.foldl (writeTo p) (sv, w)).1.hub.next = sv.hub.next ∧
        (l.foldl (writeTo p) (sv, w)).1.sim = sv.sim ∧
        (∀ d, (l.foldl (writeTo p) (sv, w)).1.links d =
          if l.contains d && (sv.links d).gone then { sv.links d with failed := true }
          else sv.links d) ∧
        (l.foldl (writeTo p) (sv, w)).2 = w ++ (l.filter fun c => !(sv.links c).gone).map (·, p)
  | [], sv, w, _ => by simp
  | c :: l, sv, w, hnd => by
    by_cases hc : (sv.links c).gone = true
    · -- the write to `c` fails: it is closed and dropped, the rest of the loop goes on
      have hstep : writeTo p (sv, w) c = (sv.dropFailed c, w) := by simp [writeTo, hc]
      rw [List.foldl_cons, hstep]
      obtain ⟨h1, h2, h3, h4, h5⟩ := foldl_writeTo p l (sv.dropFailed c) w (hnd.erase c)
      have hgone : ∀ d, ((sv.dropFailed c).links d).gone = (sv.links d).gone := by
        intro d
        rw [dropFailed_links]
        split <;> simp_all
      refine ⟨?_, by rw [h2, dropFailed_next], by rw [h3, dropFailed_sim], fun d => ?_, ?_⟩
      · rw [h1, dropFailed_viewers, hnd.erase_eq_filter, List.filter_filter]
        refine List.filter_congr fun x _ => ?_
        by_cases hx : x = c
        · subst hx
          simp [hc]
        · simp [hx, hgone]
      · rw [h4 d, hgone, dropFailed_links]
        by_cases hd : d = c
        · subst hd
          simp [hc]
        · simp [hd]
      · rw [h5, List.filter_cons_of_neg (by simp [hc])]
        simp only [hgone]
    · -- the write to `c` goes through
      have hstep : writeTo p (sv, w) c = (sv, w ++ [(c, p)]) := by simp [writeTo, hc]
      rw [List.foldl_cons, hstep]
      obtain ⟨h1, h2, h3, h4, h5⟩ := foldl_writeTo p l sv (w ++ [(c, p)]) hnd
      refine ⟨?_, h2, h3, fun d => ?_, ?_⟩
      · rw [h1]
        refine List.filter_congr fun x _ => ?_
        by_cases hx : x = c
        · subst hx
          simp [hc]
        · simp [hx]
      · rw [h4 d]
        by_cases hd : d = c
        · subst hd
          simp [hc]
        · simp [hd]
      · rw [h5, List.filter_cons_of_pos (by simp [hc])]
        simp

/-- What a broadcast does: the clients whose peer has gone are closed and dropped, and the payload
is written once to each of the others, in order. -/
structure BroadcastOf (sv : Server) (p : Payload) (r : Server × List Write) : Prop where
  writes : r.2 = (sv.hub.viewers.filter fun c => !(sv.links c).gone).map (·, p)
  clients : r.1.hub.viewers = sv.hub.viewers.filter fun c => !(sv.links c).gone
  closed : ∀ c ∈ sv.hub.viewers, (sv.links c).gone = true → (r.1.links c).failed = true

/-- **A broadcast writes to each client once and drops those whose write fails.** -/
theorem broadcast_spec (sv : Server) (p : Payload) (hnd : sv.hub.viewers.Nodup) :
    BroadcastOf sv p (sv.broadcast p) ∧ (sv.broadcast p).1.hub.next = sv.hub.next ∧
      (sv.broadcast p).1.sim = sv.sim ∧
      ∀ d, (sv.broadcast p).1.links d =
        if d ∈ sv.hub.viewers ∧ (sv.links d).gone = true then { sv.links d with failed := true }
        else sv.links d := by
  obtain ⟨h1, h2, h3, h4, h5⟩ := foldl_writeTo p sv.hub.viewers sv [] hnd
  unfold broadcast
  have hkeep : (sv.hub.viewers.filter fun c => !(sv.hub.viewers.contains c && (sv.links c).gone)) =
      sv.hub.viewers.filter fun c => !(sv.links c).gone :=
    List.filter_congr fun c hc => by simp [hc]
  refine ⟨⟨by simpa using h5, by rw [h1, hkeep], fun c hc hg => ?_⟩, h2, h3, fun d => ?_⟩
  · rw [h4 c]
    simp [hc, hg]
  · rw [h4 d]
    simp

@[simp] theorem broadcastAll_single (sv : Server) (p : Payload) :
    sv.broadcastAll [p] = sv.broadcast p := by
  simp [broadcastAll]

/-- A broadcast only marks connections failed. -/
theorem broadcast_phase (sv : Server) (hnd : sv.hub.viewers.Nodup) (p : Payload) (c : Nat) :
    ((sv.broadcast p).1.links c).phase = (sv.links c).phase := by
  rw [(broadcast_spec sv p hnd).2.2.2 c]
  split <;> rfl

/-! ## The steps, one at a time -/

theorem step_greet {sv : Server} {c : Nat} (h : (sv.links c).phase = .greeting) :
    sv.step (.greet c) =
      (sv.setLink c fun l => { l with phase := .reporting sv.sim.controlState }, []) := by
  simp only [step, h]

theorem step_report {sv : Server} {c : Nat} {st : ControlState}
    (h : (sv.links c).phase = .reporting st) (hst : ∃ sc : Scheme, st.integrator = sc.name) :
    ∃ p, Hub.statusPayloads st = [p] ∧
      sv.step (.report c) = (sv.setLink c fun l => { l with phase := .reading }).broadcast p := by
  obtain ⟨bs, hbs⟩ := Hub.statusPayloads_of_scheme hst
  exact ⟨_, hbs, by simp only [step, h, hbs, broadcastAll_single]⟩

/-- Reading a message writes nothing: one that decodes is held for applying, one that does not
is dropped. -/
theorem step_receive {sv : Server} {c : Nat} (m : ControlMessage)
    (h : (sv.links c).phase = .reading) (hf : (sv.links c).failed = false) :
    sv.step (.receive c m) =
      match m.decode with
      | .ok cs => (sv.setLink c fun l => { l with phase := .applying cs }, [])
      | .error _ => (sv, []) := by
  simp only [step, h, hf]
  cases m.decode <;> rfl

theorem step_apply {sv : Server} {c : Nat} {cs : ControlSettings}
    (h : (sv.links c).phase = .applying cs) :
    sv.step (.apply c) =
      ({ sv.setLink c fun l => { l with phase := .reporting (sv.sim.applyControl cs).1.controlState }
          with sim := (sv.sim.applyControl cs).1 }, []) := by
  simp only [step, h]
  rw [Hub.answerControl_state, Hub.answerControl_fst]

theorem step_readFails {sv : Server} {c : Nat} (h : (sv.links c).phase = .reading) :
    sv.step (.readFails c) =
      ({ sv.setLink c fun l => { l with phase := .exited } with
          hub := { sv.hub with viewers := sv.hub.viewers.erase c } }, []) := by
  simp only [step, h]

theorem step_frame (sv : Server) :
    sv.step .frame = sv.broadcast (.frame (Frame.ofSnapshot sv.sim.snapshot).encode) := by
  simp only [step, broadcastAll_single]

/-! ## The clients along a run -/

/-- The hub's clients are exactly the connections whose handler has registered them and not
returned, and to which no write has failed, each once; connections not accepted yet are
untouched; and every report a handler is about to make names a built-in scheme. -/
structure Wf (sv : Server) : Prop where
  clients : ∀ c, c ∈ sv.hub.viewers ↔ (sv.links c).registered = true ∧ (sv.links c).failed = false
  nodup : sv.hub.viewers.Nodup
  fresh : ∀ c, sv.hub.next ≤ c → (sv.links c).phase = .idle ∧ (sv.links c).failed = false
  reports : ∀ c st, (sv.links c).phase = .reporting st → ∃ sc : Scheme, st.integrator = sc.name

theorem wf_start (s : Simulation) : (start s).Wf where
  clients c := by simp [start, Hub.empty, Link.fresh, Link.registered]
  nodup := List.nodup_nil
  fresh _ _ := ⟨rfl, rfl⟩
  reports _ _ h := by cases h

/-- A registered handler's connection has been accepted. -/
theorem Wf.lt_next {sv : Server} (hw : sv.Wf) {c : Nat} (hreg : (sv.links c).registered = true) :
    c < sv.hub.next := by
  by_contra hle
  have hidle := (hw.fresh c (Nat.le_of_not_lt hle)).1
  simp [Link.registered, hidle] at hreg

theorem Wf.broadcast {sv : Server} (hw : sv.Wf) (p : Payload) : (sv.broadcast p).1.Wf := by
  obtain ⟨⟨-, hcl, -⟩, hnext, -, hlinks⟩ := broadcast_spec sv p hw.nodup
  refine ⟨fun c => ?_, ?_, fun c hc => ?_,
    fun c st h => hw.reports c st (broadcast_phase sv hw.nodup p c ▸ h)⟩
  · -- a client stays one unless its write failed
    rw [hcl, List.mem_filter, hlinks c]
    by_cases hmem : c ∈ sv.hub.viewers
    · have hreg := (hw.clients c).mp hmem
      by_cases hg : (sv.links c).gone = true
      · simp [hmem, hg]
      · simp [hmem, hg, hreg]
    · have hreg := (hw.clients c).not.mp hmem
      simp only [hmem, false_and, if_false, false_iff]
      exact hreg
  · rw [hcl]
    exact hw.nodup.filter _
  · rw [hnext] at hc
    have hnot : c ∉ sv.hub.viewers := fun hmem => by
      have := ((hw.clients c).mp hmem).1
      simp [Link.registered, (hw.fresh c hc).1] at this
    rw [hlinks c, if_neg (fun h => hnot h.1)]
    exact hw.fresh c hc

/-- Moving a registered handler to another registered phase keeps the invariant, as long as a
report it is to make names a built-in scheme. -/
theorem Wf.setPhase {sv : Server} (hw : sv.Wf) {c : Nat} {ph : HandlerPhase}
    (hreg : (sv.links c).registered = true)
    (hph : ({ sv.links c with phase := ph } : Link).registered = true)
    (hrep : ∀ st, ph = .reporting st → ∃ sc : Scheme, st.integrator = sc.name) :
    (sv.setLink c fun l => { l with phase := ph }).Wf := by
  have hlt := hw.lt_next hreg
  refine ⟨fun d => ?_, hw.nodup, fun d hd => ?_, fun d st h => ?_⟩
  · rw [setLink_hub, setLink_links]
    split
    · subst d
      rw [hw.clients, hreg, hph]
    · exact hw.clients d
  · rw [setLink_hub] at hd
    rw [setLink_links, if_neg (by omega)]
    exact hw.fresh d hd
  · rw [setLink_links] at h
    split at h
    · exact hrep st h
    · exact hw.reports d st h

theorem Wf.accept {sv : Server} (hw : sv.Wf) : (sv.step .accept).1.Wf := by
  have hfresh := hw.fresh sv.hub.next le_rfl
  have hnew : sv.hub.next ∉ sv.hub.viewers := fun hmem => by
    have := ((hw.clients _).mp hmem).1
    simp [Link.registered, hfresh.1] at this
  refine ⟨fun d => ?_, ?_, fun d hd => ?_, fun d st h => ?_⟩
  · simp only [step, setLink_links, List.mem_append, List.mem_singleton]
    split
    · subst d
      simp [hnew, Link.registered, hfresh.2]
    · rename_i hd
      simp [hd, hw.clients d]
  · exact hw.nodup.append (List.nodup_singleton _) (by simpa using hnew)
  · simp only [step] at hd
    simp only [step, setLink_links, if_neg (show d ≠ sv.hub.next by omega)]
    exact hw.fresh d (by omega)
  · simp only [step, setLink_links] at h
    split at h
    · cases h
    · exact hw.reports d st h

theorem Wf.readFails {sv : Server} (hw : sv.Wf) {c : Nat} (hph : (sv.links c).phase = .reading) :
    (sv.step (.readFails c)).1.Wf := by
  rw [step_readFails hph]
  have hlt := hw.lt_next (c := c) (by simp [Link.registered, hph])
  refine ⟨fun d => ?_, hw.nodup.erase c, fun d hd => ?_, fun d st h => ?_⟩
  · -- the handler has returned and its connection is gone from the clients
    simp only [setLink_links]
    split
    · subst d
      simp [hw.nodup.not_mem_erase, Link.registered]
    · rename_i hd
      rw [List.mem_erase_of_ne hd]
      exact hw.clients d
  · simp only at hd
    simp only [setLink_links, if_neg (show d ≠ c by omega)]
    exact hw.fresh d hd
  · simp only [setLink_links] at h
    split at h
    · cases h
    · exact hw.reports d st h

theorem Wf.peerGone {sv : Server} (hw : sv.Wf) (c : Nat) : (sv.step (.peerGone c)).1.Wf := by
  refine ⟨fun d => ?_, hw.nodup, fun d hd => ?_, fun d st h => ?_⟩
  · simp only [step, setLink_hub, setLink_links]
    split
    · subst d
      simpa [Link.registered] using hw.clients c
    · exact hw.clients d
  · simp only [step, setLink_hub] at hd
    simp only [step, setLink_links]
    split
    · subst d
      simpa using hw.fresh c hd
    · exact hw.fresh d hd
  · simp only [step, setLink_links] at h
    split at h
    · subst d
      exact hw.reports c st h
    · exact hw.reports d st h

/-- The simulation takes no part in the invariant. -/
theorem Wf.withSim {sv : Server} (hw : sv.Wf) (s : Simulation) : ({ sv with sim := s } : Server).Wf :=
  ⟨hw.clients, hw.nodup, hw.fresh, hw.reports⟩

/-- **Every step keeps the clients in step with the handlers and the failed writes.** -/
theorem Wf.step {sv : Server} (hw : sv.Wf) : ∀ e, (sv.step e).1.Wf
  | .accept => hw.accept
  | .greet c => by
    cases hph : (sv.links c).phase with
    | greeting =>
      rw [step_greet hph]
      refine hw.setPhase (by simp [Link.registered, hph]) rfl fun st h => ?_
      cases h
      exact sv.sim.controlState_named
    | _ => simpa only [Server.step, hph] using hw
  | .report c => by
    cases hph : (sv.links c).phase with
    | reporting st =>
      obtain ⟨p, -, hstep⟩ := step_report hph (hw.reports c st hph)
      rw [hstep]
      refine (hw.setPhase (by simp [Link.registered, hph]) rfl fun _ h => ?_).broadcast p
      cases h
    | _ => simpa only [Server.step, hph] using hw
  | .receive c m => by
    cases hph : (sv.links c).phase with
    | reading =>
      cases hf : (sv.links c).failed with
      | false =>
        rw [step_receive m hph hf]
        cases m.decode with
        | error e => exact hw
        | ok cs =>
          refine hw.setPhase (by simp [Link.registered, hph]) rfl fun _ h => ?_
          cases h
      | true => simpa only [Server.step, hph, hf] using hw
    | _ => simpa only [Server.step, hph] using hw
  | .apply c => by
    cases hph : (sv.links c).phase with
    | applying cs =>
      rw [step_apply hph]
      refine (hw.setPhase (by simp [Link.registered, hph]) rfl fun st h => ?_).withSim _
      cases h
      exact Simulation.controlState_named _
    | _ => simpa only [Server.step, hph] using hw
  | .readFails c => by
    cases hph : (sv.links c).phase with
    | reading => exact hw.readFails hph
    | _ => simpa only [Server.step, hph] using hw
  | .peerGone c => hw.peerGone c
  | .frame => by
    rw [step_frame]
    exact hw.broadcast _
  | .advance dt => hw.withSim _

theorem Wf.run {sv : Server} (hw : sv.Wf) : ∀ es, (sv.run es).1.Wf
  | [] => hw
  | e :: es => (hw.step e).run es

/-! ## Writes and failed connections -/

theorem broadcast_writes_mem (sv : Server) (hnd : sv.hub.viewers.Nodup) (p : Payload) :
    ∀ w ∈ (sv.broadcast p).2, w.1 ∈ sv.hub.viewers := by
  rw [(broadcast_spec sv p hnd).1.writes]
  intro w hw
  obtain ⟨c, hc, rfl⟩ := List.mem_map.mp hw
  exact (List.mem_filter.mp hc).1

theorem broadcast_failed (sv : Server) (hnd : sv.hub.viewers.Nodup) (p : Payload) {c : Nat}
    (h : (sv.links c).failed = true) : ((sv.broadcast p).1.links c).failed = true := by
  rw [(broadcast_spec sv p hnd).2.2.2 c]
  split <;> simp [h]

/-- A step writes only to clients of the hub before it. -/
theorem Wf.step_writes {sv : Server} (hw : sv.Wf) : ∀ e, ∀ w ∈ (sv.step e).2, w.1 ∈ sv.hub.viewers
  | .report c => by
    cases hph : (sv.links c).phase with
    | reporting st =>
      obtain ⟨p, -, hstep⟩ := step_report hph (hw.reports c st hph)
      rw [hstep]
      exact broadcast_writes_mem (sv.setLink c fun l => { l with phase := .reading }) hw.nodup p
    | _ => simp [Server.step, hph]
  | .frame => by
    rw [step_frame]
    exact broadcast_writes_mem sv hw.nodup _
  -- the other steps write nothing
  | .accept | .peerGone _ | .advance _ => by simp [Server.step]
  | .greet c | .apply c | .readFails c => by
    simp only [Server.step]
    split <;> simp
  | .receive c m => by
    simp only [Server.step]
    split
    · split <;> simp
    · simp

/-- A connection the hub closed stays closed. -/
theorem Wf.step_failed {sv : Server} (hw : sv.Wf) {c : Nat} (h : (sv.links c).failed = true) :
    ∀ e, ((sv.step e).1.links c).failed = true
  | .accept => by simpa [Server.step] using h
  | .greet d => by
    cases hph : (sv.links d).phase with
    | greeting => simpa [step_greet hph] using h
    | _ => simpa only [Server.step, hph] using h
  | .report d => by
    cases hph : (sv.links d).phase with
    | reporting st =>
      obtain ⟨p, -, hstep⟩ := step_report hph (hw.reports d st hph)
      rw [hstep]
      exact broadcast_failed (sv.setLink d fun l => { l with phase := .reading }) hw.nodup p
        (by simpa using h)
    | _ => simpa only [Server.step, hph] using h
  | .receive d m => by
    cases hph : (sv.links d).phase with
    | reading =>
      cases hf : (sv.links d).failed with
      | false =>
        rw [step_receive m hph hf]
        cases m.decode with
        | error e => exact h
        | ok cs => simpa using h
      | true => simpa only [Server.step, hph, hf] using h
    | _ => simpa only [Server.step, hph] using h
  | .apply d => by
    cases hph : (sv.links d).phase with
    | applying cs => simpa [step_apply hph] using h
    | _ => simpa only [Server.step, hph] using h
  | .readFails d => by
    cases hph : (sv.links d).phase with
    | reading => simpa [step_readFails hph] using h
    | _ => simpa only [Server.step, hph] using h
  | .peerGone d => by
    simp only [Server.step, setLink_links]
    split
    · subst d
      exact h
    · exact h
  | .frame => by
    rw [step_frame]
    exact broadcast_failed sv hw.nodup _ h
  | .advance dt => h

/-- **A connection whose write failed is never written to again**, whatever happens next: it left
the clients when the write failed, and only a new connection joins them. -/
theorem Wf.run_never_writes_failed {sv : Server} (hw : sv.Wf) {c : Nat}
    (h : (sv.links c).failed = true) : ∀ es, ∀ w ∈ (sv.run es).2, w.1 ≠ c
  | [], w, hmem => by simp [Server.run] at hmem
  | e :: es, w, hmem => by
    simp only [Server.run, List.mem_append] at hmem
    rcases hmem with hmem | hmem
    · -- a write of this step goes to a client, and `c` is none
      intro hwc
      have hcl := (hw.clients c).mp (hwc ▸ hw.step_writes e w hmem)
      simp [h] at hcl
    · exact (hw.step e).run_never_writes_failed (hw.step_failed h e) es w hmem

/-! ## Each handler in turn -/

theorem setLink_phase_ne (sv : Server) {c d : Nat} (f : Link → Link) (hcd : c ≠ d) :
    ((sv.setLink d f).links c).phase = (sv.links c).phase := by
  rw [setLink_links, if_neg hcd]

/-- **A handler moves only by its own steps**: the steps of the other handlers, of the loop and
of the network leave where a registered handler is. -/
theorem Wf.step_phase {sv : Server} (hw : sv.Wf) {c : Nat} (hreg : (sv.links c).registered = true) :
    ∀ e, e.handler ≠ some c → ((sv.step e).1.links c).phase = (sv.links c).phase
  | .accept, _ => setLink_phase_ne sv (fun l => { l with phase := .greeting }) (hw.lt_next hreg).ne
  | .greet d, hd | .receive d _, hd | .apply d, hd | .readFails d, hd => by
    have hcd : c ≠ d := fun h => hd (by rw [h]; rfl)
    simp only [Server.step]
    repeat' split
    all_goals simp [setLink_links, hcd]
  | .report d, hd => by
    have hcd : c ≠ d := fun h => hd (by rw [h]; rfl)
    cases hph : (sv.links d).phase with
    | reporting st =>
      obtain ⟨p, -, hstep⟩ := step_report hph (hw.reports d st hph)
      rw [hstep, broadcast_phase (sv.setLink d fun l => { l with phase := .reading }) hw.nodup p c]
      exact setLink_phase_ne sv _ hcd
    | _ => simp only [Server.step, hph]
  | .peerGone d, _ => by
    simp only [Server.step, setLink_links]
    split
    · subst d
      rfl
    · rfl
  | .frame, _ => by
    rw [step_frame]
    exact broadcast_phase sv hw.nodup _ c
  | .advance _, _ => rfl

theorem Link.registered_of_phase {l l' : Link} (h : l'.phase = l.phase) :
    l'.registered = l.registered := by
  unfold Link.registered
  rw [h]

/-- Over steps that are none of its own, a registered handler stays where it is. -/
theorem Wf.run_phase {sv : Server} (hw : sv.Wf) {c : Nat} (hreg : (sv.links c).registered = true) :
    ∀ es, (∀ e ∈ es, e.handler ≠ some c) → ((sv.run es).1.links c).phase = (sv.links c).phase
  | [], _ => rfl
  | e :: es, hes => by
    have hstep := hw.step_phase hreg e (hes e List.mem_cons_self)
    have hreg' : ((sv.step e).1.links c).registered = true :=
      (Link.registered_of_phase hstep).trans hreg
    simp only [Server.run]
    rw [(hw.step e).run_phase hreg' es fun e' he' => hes e' (List.mem_cons_of_mem _ he'), hstep]

/-! ## Broadcasts and answers -/

/-- A broadcast from a server with the same clients and the same peers does the same. -/
theorem BroadcastOf.of_same_clients {sv' sv : Server} {p : Payload} {r : Server × List Write}
    (hb : BroadcastOf sv' p r) (hhub : sv'.hub = sv.hub)
    (hgone : ∀ c, (sv'.links c).gone = (sv.links c).gone) : BroadcastOf sv p r where
  writes := by simp only [hb.writes, hhub, hgone]
  clients := by simp only [hb.clients, hhub, hgone]
  closed c hc hg := hb.closed c (hhub ▸ hc) (by rw [hgone]; exact hg)

/-- A handler's report is one broadcast of the state it holds, after which it reads again. -/
theorem Wf.report_broadcasts {sv : Server} (hw : sv.Wf) {c : Nat} {st : ControlState}
    (h : (sv.links c).phase = .reporting st) :
    ∃ p, Hub.statusPayloads st = [p] ∧ BroadcastOf sv p (sv.step (.report c)) ∧
      ((sv.step (.report c)).1.links c).phase = .reading := by
  obtain ⟨p, hp, hstep⟩ := step_report h (hw.reports c st h)
  have hb := (broadcast_spec (sv.setLink c fun l => { l with phase := .reading }) p hw.nodup).1
  refine ⟨p, hp, ?_, ?_⟩
  · rw [hstep]
    exact hb.of_same_clients (setLink_hub _ _ _) (setPhase_gone _ _ _)
  · rw [hstep, broadcast_phase (sv.setLink c fun l => { l with phase := .reading }) hw.nodup p c,
      setLink_links_self]

/-- **A message that decodes is answered by exactly one status broadcast.** Its handler holds it
without writing, applies it at its next step without writing, and broadcasts at the step after
that the state the update left (the state before, when the update is refused), then reads again;
whatever the other handlers, the loop and the network do in between. -/
theorem Wf.message_answered {sv : Server} (hw : sv.Wf) {c : Nat} {m : ControlMessage}
    {cs : ControlSettings} (hph : (sv.links c).phase = .reading) (hf : (sv.links c).failed = false)
    (hm : m.decode = .ok cs) (es₁ es₂ : List Event) (h₁ : ∀ e ∈ es₁, e.handler ≠ some c)
    (h₂ : ∀ e ∈ es₂, e.handler ≠ some c) :
    let sv₁ := ((sv.step (.receive c m)).1.run es₁).1
    let sv₂ := ((sv₁.step (.apply c)).1.run es₂).1
    (sv.step (.receive c m)).2 = [] ∧ (sv₁.step (.apply c)).2 = [] ∧
      (sv₁.step (.apply c)).1.sim = (sv₁.sim.applyControl cs).1 ∧
      (∀ e, (sv₁.sim.applyControl cs).2 = .error e → (sv₁.sim.applyControl cs).1 = sv₁.sim) ∧
      ∃ p, Hub.statusPayloads (sv₁.sim.applyControl cs).1.controlState = [p] ∧
        BroadcastOf sv₂ p (sv₂.step (.report c)) ∧ ((sv₂.step (.report c)).1.links c).phase = .reading := by
  intro sv₁ sv₂
  have hrecv := step_receive m hph hf
  simp only [hm] at hrecv
  -- the message is held through the other steps
  have hw₀ := hw.step (.receive c m)
  have hph₀ : ((sv.step (.receive c m)).1.links c).phase = .applying cs := by
    rw [hrecv, setLink_links_self]
  have hph₁ : (sv₁.links c).phase = .applying cs := by
    rw [hw₀.run_phase (by simp [Link.registered, hph₀]) es₁ h₁, hph₀]
  -- then applied, and the state it left held through the other steps
  have happly := step_apply hph₁
  have hw₁ : (sv₁.step (.apply c)).1.Wf := (hw₀.run es₁).step (.apply c)
  have hph₁' : ((sv₁.step (.apply c)).1.links c).phase =
      .reporting (sv₁.sim.applyControl cs).1.controlState := by
    rw [happly]
    simp
  have hph₂ : (sv₂.links c).phase = .reporting (sv₁.sim.applyControl cs).1.controlState := by
    rw [hw₁.run_phase (by simp [Link.registered, hph₁']) es₂ h₂, hph₁']
  refine ⟨by rw [hrecv], by rw [happly], by rw [happly], fun e he => ?_,
    (hw₁.run es₂).report_broadcasts hph₂⟩
  rw [← Hub.answerControl_fst]
  exact Hub.answerControl_of_error he

/-! ## The hub's operations

With every client's peer there, no write fails, and the hub's operations are the steps that make
them up run back to back. -/

/-- With every client's peer there, a broadcast writes to every client and keeps the hub. -/
theorem broadcast_of_present (sv : Server) (hnd : sv.hub.viewers.Nodup)
    (hnone : ∀ c ∈ sv.hub.viewers, (sv.links c).gone = false) (p : Payload) :
    (sv.broadcast p).1.hub = sv.hub ∧ (sv.broadcast p).2 = (sv.hub.deliver [p]).writes := by
  obtain ⟨⟨hwr, hcl, -⟩, hnext, -, -⟩ := broadcast_spec sv p hnd
  have hall : (sv.hub.viewers.filter fun c => !(sv.links c).gone) = sv.hub.viewers :=
    List.filter_eq_self.mpr fun c hc => by simp [hnone c hc]
  refine ⟨Hub.ext (by rw [hcl, hall]) hnext, ?_⟩
  rw [hwr, hall, Delivery.writes_deliver]

/-- With every client's peer there, a handler's report is the hub's broadcast of its state. -/
theorem report_of_present {sv : Server} (hw : sv.Wf)
    (hnone : ∀ c ∈ sv.hub.viewers, (sv.links c).gone = false) {c : Nat} {st : ControlState}
    (h : (sv.links c).phase = .reporting st) :
    (sv.step (.report c)).1.hub = sv.hub ∧ (sv.step (.report c)).1.sim = sv.sim ∧
      (sv.step (.report c)).2 = (sv.hub.deliver (Hub.statusPayloads st)).writes := by
  obtain ⟨p, hp, hstep⟩ := step_report h (hw.reports c st h)
  rw [hstep, hp]
  have hsim := (broadcast_spec (sv.setLink c fun l => { l with phase := .reading }) p hw.nodup).2.2.1
  obtain ⟨hhub, hwrites⟩ := broadcast_of_present
    (sv.setLink c fun l => { l with phase := .reading }) hw.nodup
    (fun d hd => by rw [setPhase_gone]; exact hnone d hd) p
  exact ⟨hhub, hsim, hwrites⟩

theorem broadcastFrame_refines {sv : Server} (hw : sv.Wf)
    (hnone : ∀ c ∈ sv.hub.viewers, (sv.links c).gone = false) :
    (sv.step .frame).1.hub = sv.hub ∧ (sv.step .frame).2 = (sv.hub.broadcastFrame sv.sim).writes := by
  rw [step_frame]
  exact broadcast_of_present sv hw.nodup hnone _

/-- A handler's greeting, read and broadcast back to back, is the hub's `broadcastStatus`. -/
theorem broadcastStatus_refines {sv : Server} (hw : sv.Wf)
    (hnone : ∀ c ∈ sv.hub.viewers, (sv.links c).gone = false) {c : Nat}
    (h : (sv.links c).phase = .greeting) :
    (sv.run [.greet c, .report c]).1.hub = sv.hub ∧
      (sv.run [.greet c, .report c]).2 = (sv.hub.broadcastStatus sv.sim).writes := by
  have hw₁ : (sv.setLink c fun l => { l with phase := .reporting sv.sim.controlState }).Wf := by
    simpa only [step_greet h] using hw.step (.greet c)
  have hrep := report_of_present hw₁ (fun d hd => by rw [setPhase_gone]; exact hnone d hd)
    (by rw [setLink_links_self])
  simp only [Server.run, step_greet h, List.nil_append, List.append_nil]
  exact ⟨hrep.1, hrep.2.2⟩

/-- A viewer connecting and its handler's greeting, back to back, are the hub's `connect`. -/
theorem connect_refines {sv : Server} (hw : sv.Wf)
    (hnone : ∀ c ∈ sv.hub.viewers ++ [sv.hub.next], (sv.links c).gone = false) :
    let r := sv.run [.accept, .greet sv.hub.next, .report sv.hub.next]
    r.1.hub = (sv.hub.connect sv.sim).1 ∧ r.2 = (sv.hub.connect sv.sim).2.2.writes := by
  intro r
  have hpresent : ∀ d ∈ (sv.step .accept).1.hub.viewers, ((sv.step .accept).1.links d).gone = false := by
    intro d hd
    simp only [Server.step] at hd ⊢
    rw [setPhase_gone]
    exact hnone d hd
  have hgreeting : ((sv.step .accept).1.links sv.hub.next).phase = .greeting := by
    simp [Server.step]
  exact broadcastStatus_refines (hw.step .accept) hpresent hgreeting

/-- A control message read, applied and answered back to back is the hub's `control`. -/
theorem control_refines {sv : Server} (hw : sv.Wf)
    (hnone : ∀ c ∈ sv.hub.viewers, (sv.links c).gone = false) {c : Nat} {m : ControlMessage}
    (hph : (sv.links c).phase = .reading) (hf : (sv.links c).failed = false) :
    let r := sv.run [.receive c m, .apply c, .report c]
    r.1.hub = sv.hub ∧ r.1.sim = (sv.hub.control sv.sim m.decode).1 ∧
      r.2 = (sv.hub.control sv.sim m.decode).2.writes := by
  intro r
  have hrecv := step_receive m hph hf
  cases hm : m.decode with
  | error e =>
    -- the message is dropped and the handler's other steps wait for the next one
    simp only [hm] at hrecv
    simp [r, Server.run, Server.step, hph, hf, hm, Hub.control]
  | ok cs =>
    simp only [hm] at hrecv
    let sv₁ := sv.setLink c fun l => { l with phase := .applying cs }
    let sv₂ : Server :=
      { sv₁.setLink c fun l => { l with phase := .reporting (sv.sim.applyControl cs).1.controlState }
          with sim := (sv.sim.applyControl cs).1 }
    have hw₁ : sv₁.Wf := by simpa only [hrecv] using hw.step (.receive c m)
    have happly : sv₁.step (.apply c) = (sv₂, []) := step_apply (by simp [sv₁])
    have hw₂ : sv₂.Wf := by simpa only [happly] using hw₁.step (.apply c)
    have hph₂ : (sv₂.links c).phase = .reporting (sv.sim.applyControl cs).1.controlState := by
      simp [sv₂]
    have hrep := report_of_present hw₂
      (fun d hd => by simp only [sv₂, sv₁, setPhase_gone]; exact hnone d hd) hph₂
    simp only [r, Server.run, hrecv, List.nil_append, List.append_nil]
    rw [show (sv.setLink c fun l => { l with phase := .applying cs }).step (.apply c) = (sv₂, [])
      from happly]
    simp only [List.nil_append]
    rw [Hub.control_ok, Hub.answerControl_fst]
    exact hrep

/-- A handler's failed read is the hub's `disconnect`. -/
theorem disconnect_refines {sv : Server} {c : Nat} (h : (sv.links c).phase = .reading) :
    (sv.step (.readFails c)).1.hub = sv.hub.disconnect c ∧ (sv.step (.readFails c)).2 = [] := by
  rw [step_readFails h]
  exact ⟨rfl, rfl⟩

/-! ## Every run -/

/-- **Along every run the hub writes to exactly its current clients, and answers each control
message once.** From the start, in any interleaving of the handlers' steps, the simulation loop's
and the network's:

* the clients are the connections whose handler has registered them and not returned, and to
  which no write has failed, each once;
* each broadcast (a frame, or a handler's report of the control state) writes its payload once to
  every client whose peer is there, and closes and drops the others;
* a connection whose write failed is never written to again, whatever follows;
* a control message read by a handler that does not decode changes nothing; one that does is
  answered by exactly one status broadcast, of the state the update left (the state before when
  the update is refused), whatever happens between the handler's steps. -/
theorem run_serves_current_clients (s : Simulation) (es : List Event) :
    let sv := ((start s).run es).1
    (∀ c, c ∈ sv.hub.viewers ↔ (sv.links c).registered = true ∧ (sv.links c).failed = false) ∧
      sv.hub.viewers.Nodup ∧
      BroadcastOf sv (.frame (Frame.ofSnapshot sv.sim.snapshot).encode) (sv.step .frame) ∧
      (∀ c st, (sv.links c).phase = .reporting st →
        ∃ p, Hub.statusPayloads st = [p] ∧ BroadcastOf sv p (sv.step (.report c)) ∧
          ((sv.step (.report c)).1.links c).phase = .reading) ∧
      (∀ c, (sv.links c).failed = true → ∀ more, ∀ w ∈ (sv.run more).2, w.1 ≠ c) ∧
      ∀ c (m : ControlMessage), (sv.links c).phase = .reading → (sv.links c).failed = false →
        match m.decode with
        | .ok cs =>
          ∀ es₁ es₂, (∀ e ∈ es₁, e.handler ≠ some c) → (∀ e ∈ es₂, e.handler ≠ some c) →
            let sv₁ := ((sv.step (.receive c m)).1.run es₁).1
            let sv₂ := ((sv₁.step (.apply c)).1.run es₂).1
            (sv.step (.receive c m)).2 = [] ∧ (sv₁.step (.apply c)).2 = [] ∧
              (sv₁.step (.apply c)).1.sim = (sv₁.sim.applyControl cs).1 ∧
              (∀ e, (sv₁.sim.applyControl cs).2 = .error e →
                (sv₁.sim.applyControl cs).1 = sv₁.sim) ∧
              ∃ p, Hub.statusPayloads (sv₁.sim.applyControl cs).1.controlState = [p] ∧
                BroadcastOf sv₂ p (sv₂.step (.report c)) ∧
                ((sv₂.step (.report c)).1.links c).phase = .reading
        | .error _ => sv.step (.receive c m) = (sv, []) := by
  intro sv
  have hw : sv.Wf := (wf_start s).run es
  refine ⟨hw.clients, hw.nodup, ?_, fun c st h => hw.report_broadcasts h,
    fun c h => hw.run_never_writes_failed h, fun c m hph hf => ?_⟩
  · rw [step_frame]
    exact (broadcast_spec sv _ hw.nodup).1
  · split
    · rename_i cs hm
      exact fun es₁ es₂ h₁ h₂ => hw.message_answered hph hf hm es₁ es₂ h₁ h₂
    · rename_i e hm
      have hrecv := step_receive m hph hf
      simpa only [hm] using hrecv

end Server

end CrowdSim
