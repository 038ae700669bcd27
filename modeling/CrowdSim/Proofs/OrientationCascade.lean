import Mathlib
import CrowdSim.Proofs.FloatOrder
import CrowdSim.Proofs.Reassignment

/-!
# The orientation cascade

To orient toward its destination waypoint, a follower tries five sources of a target in turn
(`Candidate`): the previous target, kept without looking while the pedestrian is within the
hysteresis distance and time of where and when it was chosen; the point of the aim line nearest
to the pedestrian; the samples of the aim line; the samples of the leg into the waypoint; and the
place where orientation last succeeded. `Offers` says which points a source finds acceptable and
`Picks` which one it settles on: among samples the cheapest visible one, the first of equal ones
(`IsBest`).

* `bestVisible_eq_none_iff`, `bestVisible_eq_some_iff`: the scan for the cheapest visible point
  finds nothing exactly when no visible point costs less than infinity, and otherwise exactly
  the best point (`IsBest.unique`);
* `orientTo_eq_settle`: orientation is the first pick of the cascade (`firstPick`), settled
  (`settle`);
* `orientation_settles_on_first_acceptable`: the follower ends lost exactly when no source offers
  an acceptable point, and otherwise targets the pick of the first source that does; orientation
  fails only when the samples of a source it reaches cannot be taken (`SettlesOn`);
* `step_settles_on_first_acceptable`: the same of a tick that orients, seeing past the walls of
  the index from the pedestrian's position; the course check after it keeps what it settled on.

Samples lie `sampleStep` apart, the waypoint's width over the sampling divisor. When that asks
for more points than a list may hold, orientation fails instead of ending lost or targeting a
point (`fine_sampling_breaks_orientation`). A visible sample whose cost is infinite or NaN is
never taken.
-/

namespace CrowdSim

/-- The line orientation aims at: the waypoint's target line, or the waypoint itself without
one. -/
def Stop.aimLine (s : Stop) : Segment := s.targetLine.getD ⟨s.position, s.position⟩

namespace RouteFollower

/-! ## The cheapest visible point -/

/-- `p` is the point of `pts` that a scan for the cheapest visible point settles on: it is
visible and costs less than infinity, no visible point after it is cheaper, and every visible
point before it is dearer, so that the first of equal ones wins. A NaN cost is below nothing. -/
def IsBest (visible : Vec → Bool) (cost : Vec → Float) (pts : List Vec) (p : Vec) : Prop :=
  ∃ pre post, pts = pre ++ p :: post ∧ visible p = true ∧ cost p < 1.0 / 0.0 ∧
    (∀ q ∈ pre, visible q = true → ¬ cost q ≤ cost p) ∧
    (∀ q ∈ post, visible q = true → ¬ cost q < cost p)

section Best

variable {visible : Vec → Bool} {cost : Vec → Float}

/-- The scan from a running best of cost `acc.1`: either no visible point is cheaper and the
running best stays, or the scan ends on the best of the points cheaper than it. -/
theorem foldl_step_cases (pts : List Vec) (acc : Float × Option Vec) :
    (pts.foldl (bestVisible.step visible cost) acc = acc ∧
      ∀ q ∈ pts, visible q = true → ¬ cost q < acc.1) ∨
    ∃ pre p post, pts = pre ++ p :: post ∧
      pts.foldl (bestVisible.step visible cost) acc = (cost p, some p) ∧
      visible p = true ∧ cost p < acc.1 ∧
      (∀ q ∈ pre, visible q = true → ¬ cost q ≤ cost p) ∧
      (∀ q ∈ post, visible q = true → ¬ cost q < cost p) := by
  induction pts generalizing acc with
  | nil => exact .inl ⟨rfl, by simp⟩
  | cons x xs ih =>
    rw [List.foldl_cons]
    by_cases hx : cost x < acc.1 ∧ visible x = true
    · -- `x` becomes the running best
      have hstep : bestVisible.step visible cost acc x = (cost x, some x) := by
        simp only [bestVisible.step, hx.1, hx.2, decide_true, Bool.and_self, if_true]
      rw [hstep]
      rcases ih (cost x, some x) with ⟨hrest, hnone⟩ | ⟨pre, p, post, rfl, hfold, hp, hlt, hpre, hpost⟩
      · exact .inr ⟨[], x, xs, rfl, hrest, hx.2, hx.1, by simp, hnone⟩
      · refine .inr ⟨x :: pre, p, post, rfl, hfold, hp, float_lt_trans hlt hx.1, ?_, hpost⟩
        intro q hq hvq
        rcases List.mem_cons.1 hq with rfl | hq
        · exact float_not_le_of_lt hlt
        · exact hpre q hq hvq
    · -- `x` is passed over
      have hstep : bestVisible.step visible cost acc x = acc := by
        unfold bestVisible.step
        rw [if_neg]
        simpa only [Bool.and_eq_true, decide_eq_true_eq] using hx
      rw [hstep]
      rcases ih acc with ⟨hrest, hnone⟩ | ⟨pre, p, post, rfl, hfold, hp, hlt, hpre, hpost⟩
      · refine .inl ⟨hrest, ?_⟩
        intro q hq hvq
        rcases List.mem_cons.1 hq with rfl | hq
        · exact fun hlt => hx ⟨hlt, hvq⟩
        · exact hnone q hq hvq
      · refine .inr ⟨x :: pre, p, post, rfl, hfold, hp, hlt, ?_, hpost⟩
        intro q hq hvq
        rcases List.mem_cons.1 hq with rfl | hq
        · exact fun hle => hx ⟨float_lt_of_le_of_lt hle hlt, hvq⟩
        · exact hpre q hq hvq

/-- The scan finds nothing exactly when no visible point costs less than infinity. -/
theorem bestVisible_eq_none_iff (pts : List Vec) :
    bestVisible visible cost pts = none ↔
      ∀ q ∈ pts, visible q = true → ¬ cost q < 1.0 / 0.0 := by
  unfold bestVisible
  rcases foldl_step_cases pts (1.0 / 0.0, none) with
    ⟨hfold, hnone⟩ | ⟨pre, p, post, rfl, hfold, hp, hlt, -, -⟩
  · rw [hfold]
    exact ⟨fun _ => hnone, fun _ => rfl⟩
  · rw [hfold]
    exact ⟨nofun, fun h => absurd hlt (h p (by simp) hp)⟩

/-- What the scan finds is the best point. -/
theorem bestVisible_isBest {pts : List Vec} {p : Vec} (h : bestVisible visible cost pts = some p) :
    IsBest visible cost pts p := by
  unfold bestVisible at h
  rcases foldl_step_cases pts (1.0 / 0.0, none) with
    ⟨hfold, -⟩ | ⟨pre, q, post, hsplit, hfold, hq, hlt, hpre, hpost⟩
  · rw [hfold] at h
    cases h
  · rw [hfold] at h
    cases h
    exact ⟨pre, post, hsplit, hq, hlt, hpre, hpost⟩

theorem IsBest.mem {pts : List Vec} {p : Vec} (h : IsBest visible cost pts p) : p ∈ pts := by
  obtain ⟨pre, post, rfl, -⟩ := h
  simp

/-- Two best points of one list are one point: were they apart, the later one would be both
strictly cheaper than the earlier and not cheaper than it. -/
theorem IsBest.unique {pts : List Vec} {p q : Vec} (hp : IsBest visible cost pts p)
    (hq : IsBest visible cost pts q) : p = q := by
  obtain ⟨pre, post, rfl, hvp, hfp, hprep, hpostp⟩ := hp
  obtain ⟨pre', post', hsplit, hvq, hfq, hpreq, hpostq⟩ := hq
  -- of two finite costs, one is below the other or at most it
  have hcmp : ∀ {x y : Vec}, cost x < 1.0 / 0.0 → cost y < 1.0 / 0.0 →
      ¬ cost y < cost x → ¬ cost x ≤ cost y → False := fun hx hy hnlt hnle =>
    hnle (float_le_of_not_lt (float_isNaN_of_lt hy) (float_isNaN_of_lt hx) hnlt)
  rcases List.append_eq_append_iff.1 hsplit with ⟨as, rfl, hrest⟩ | ⟨bs, rfl, hrest⟩
  · cases as with
    | nil => exact (List.cons.inj hrest).1
    | cons x as =>
      obtain ⟨rfl, rfl⟩ := List.cons.inj hrest
      exact (hcmp hfp hfq (hpostp q (by simp) hvq) (hpreq p (by simp) hvp)).elim
  · cases bs with
    | nil => exact (List.cons.inj hrest).1.symm
    | cons y bs =>
      obtain ⟨rfl, rfl⟩ := List.cons.inj hrest
      exact (hcmp hfq hfp (hpostq p (by simp) hvp) (hprep q (by simp) hvq)).elim

/-- The scan finds exactly the best point. -/
theorem bestVisible_eq_some_iff {pts : List Vec} {p : Vec} :
    bestVisible visible cost pts = some p ↔ IsBest visible cost pts p := by
  refine ⟨bestVisible_isBest, fun hp => ?_⟩
  cases h : bestVisible visible cost pts with
  | none =>
    have hmem := hp.mem
    obtain ⟨-, -, -, hv, hlt, -⟩ := hp
    exact absurd hlt ((bestVisible_eq_none_iff pts).1 h p hmem hv)
  | some q => rw [(bestVisible_isBest h).unique hp]

end Best

/-! ## The sources of a target -/

/-- The sources of a target, in the order orientation tries them. -/
inductive Candidate where
  /-- The previous target, kept without looking. -/
  | kept
  /-- The point of the aim line nearest to the pedestrian. -/
  | nearest
  /-- A sample of the aim line. -/
  | lineSample
  /-- A sample of the leg into the waypoint. -/
  | legSample
  /-- The place where orientation last succeeded. -/
  | lastGood
  deriving DecidableEq

namespace Candidate

/-- The place of a source in the order of trial. -/
def rank : Candidate → Nat
  | kept => 0
  | nearest => 1
  | lineSample => 2
  | legSample => 3
  | lastGood => 4

instance : LT Candidate := ⟨fun a b => a.rank < b.rank⟩

instance (a b : Candidate) : Decidable (a < b) := inferInstanceAs (Decidable (a.rank < b.rank))

/-- Every source, in the order of trial. -/
def all : List Candidate := [kept, nearest, lineSample, legSample, lastGood]

theorem mem_all (c : Candidate) : c ∈ all := by
  cases c <;> decide

theorem all_pairwise : all.Pairwise (· < ·) := by
  decide

end Candidate

/-- The spacing of the samples taken toward waypoint `s`: its width over the sampling divisor, the
divisor taken to be at least one. -/
def sampleStep (f : RouteFollower) (s : Stop) : Float :=
  s.width / Elementary.maxOf f.tuning.samplingDivisor 1.0

/-- The points source `c` offers as acceptable targets toward waypoint `s`, to a pedestrian at
`pos` at time `now` who sees what `visible` admits: the previous target if no waypoint was passed
and no deviation found since and the pedestrian is within the hysteresis distance and time of
where and when it was chosen, seen or not; the nearest point of the aim line if visible; a
visible sample of the aim line at a distance below infinity; a visible sample of the leg into
the waypoint with a path through it below infinity; the place of the last success if visible and
away from the pedestrian. -/
def Offers (f : RouteFollower) (s : Stop) (visible : Vec → Bool) (pos : Vec) (now : Float) :
    Candidate → Vec → Prop
  | .kept, p => ∃ a, f.aim = some a ∧ a.point = p ∧ f.passed = false ∧
      f.courseDeviation = false ∧ pos.dist a.origin ≤ f.tuning.hysteresisDistance ∧
      now - a.time ≤ f.tuning.hysteresisTime
  | .nearest, p => p = s.aimLine.closest pos ∧ visible p = true
  | .lineSample, p => ∃ ps, s.aimLine.sample (f.sampleStep s) = .ok ps ∧ p ∈ ps ∧
      visible p = true ∧ pos.dist p < 1.0 / 0.0
  | .legSample, p => ∃ conn ps, s.connection = some conn ∧ conn.sample (f.sampleStep s) = .ok ps ∧
      p ∈ ps ∧ visible p = true ∧ pos.dist p + p.dist s.position < 1.0 / 0.0
  | .lastGood, p => f.lastGood = some p ∧ pos.dist p > tolerance ∧ visible p = true

/-- The point source `c` settles on: the one it offers, and among samples the cheapest visible
one, the first of equal ones, a leg sample costing the length of the path through it to the
waypoint. -/
def Picks (f : RouteFollower) (s : Stop) (visible : Vec → Bool) (pos : Vec) (now : Float) :
    Candidate → Vec → Prop
  | .lineSample, p => ∃ ps, s.aimLine.sample (f.sampleStep s) = .ok ps ∧
      IsBest visible (pos.dist ·) ps p
  | .legSample, p => ∃ conn ps, s.connection = some conn ∧ conn.sample (f.sampleStep s) = .ok ps ∧
      IsBest visible (fun q => pos.dist q + q.dist s.position) ps p
  | c, p => f.Offers s visible pos now c p

/-- The samples source `c` needs toward waypoint `s` cannot be taken, for reason `e`. -/
def Fails (f : RouteFollower) (s : Stop) : Candidate → SampleError → Prop
  | .lineSample, e => s.aimLine.sample (f.sampleStep s) = .error e
  | .legSample, e => ∃ conn, s.connection = some conn ∧ conn.sample (f.sampleStep s) = .error e
  | _, _ => False

section Sources

variable {f : RouteFollower} {s : Stop} {visible : Vec → Bool} {pos : Vec} {now : Float}

theorem Picks.offers {c : Candidate} {p : Vec} (h : f.Picks s visible pos now c p) :
    f.Offers s visible pos now c p := by
  cases c with
  | lineSample =>
    obtain ⟨ps, hs, hb⟩ := h
    have hmem := hb.mem
    obtain ⟨-, -, -, hv, hlt, -⟩ := hb
    exact ⟨ps, hs, hmem, hv, hlt⟩
  | legSample =>
    obtain ⟨conn, ps, hc, hs, hb⟩ := h
    have hmem := hb.mem
    obtain ⟨-, -, -, hv, hlt, -⟩ := hb
    exact ⟨conn, ps, hc, hs, hmem, hv, hlt⟩
  | kept | nearest | lastGood => exact h

end Sources

/-! ## Orientation as a cascade -/

/-- The previous target, if it may be kept without looking. -/
def keptTarget (f : RouteFollower) (pos : Vec) (now : Float) : Option Vec :=
  match f.aim with
  | some a =>
    if !f.passed && !f.courseDeviation && pos.dist a.origin ≤ f.tuning.hysteresisDistance &&
      now - a.time ≤ f.tuning.hysteresisTime then some a.point else none
  | none => none

/-- What source `c` yields as orientation computes it: the point it settles on, none, or why its
samples cannot be taken. -/
def pick (f : RouteFollower) (s : Stop) (visible : Vec → Bool) (pos : Vec) (now : Float) :
    Candidate → Except SampleError (Option Vec)
  | .kept => .ok (f.keptTarget pos now)
  | .nearest =>
    .ok (if visible (s.aimLine.closest pos) then some (s.aimLine.closest pos) else none)
  | .lineSample => (s.aimLine.sample (f.sampleStep s)).map (bestVisible visible (pos.dist ·))
  | .legSample =>
    match s.connection with
    | some conn =>
      (conn.sample (f.sampleStep s)).map
        (bestVisible visible fun q => pos.dist q + q.dist s.position)
    | none => .ok none
  | .lastGood =>
    .ok (match f.lastGood with
      | some g => if pos.dist g > tolerance && visible g then some g else none
      | none => none)

/-- The first source of `cs` that yields a point, with the point; none if no source does; or the
reason of the first source before it whose samples cannot be taken. -/
def firstPick (pick : Candidate → Except SampleError (Option Vec)) :
    List Candidate → Except SampleError (Option (Candidate × Vec))
  | [] => .ok none
  | c :: cs =>
    match pick c with
    | .error e => .error e
    | .ok (some p) => .ok (some (c, p))
    | .ok none => firstPick pick cs

/-- The follower once orientation toward `s` has settled on `choice`: lost and standing without
one; otherwise walking toward its point, recording it as the target unless it is the kept one,
and recording `pos` as the place of success unless it fell back on the last one. -/
def settle (f : RouteFollower) (s : Stop) (pos : Vec) (now : Float)
    (choice : Option (Candidate × Vec)) : RouteFollower :=
  let f := { f with
    needsOrientation := false, courseDeviation := false, passed := false,
    lastOrientationTime := now }
  match choice with
  | none => { f with lost := true, needsOrientation := true, direction := Vec.zero }
  | some (c, p) =>
    let f := { f with lost := false }
    let f := if c = .kept then f else { f with aim := some ⟨p, now, pos⟩ }
    let f := if c = .lastGood then f else { f with lastGood := some pos }
    let dir := (p - pos).normalize
    let dir := if dir.isZero then (s.position - pos).normalize else dir
    { f with direction := dir }

section FirstPick

variable {pick : Candidate → Except SampleError (Option Vec)}

theorem firstPick_cons_none {c : Candidate} {cs : List Candidate} (h : pick c = .ok none) :
    firstPick pick (c :: cs) = firstPick pick cs := by
  simp only [firstPick, h]

theorem firstPick_append (cs ds : List Candidate) :
    firstPick pick (cs ++ ds) =
      match firstPick pick cs with
      | .ok none => firstPick pick ds
      | r => r := by
  induction cs with
  | nil => rfl
  | cons c cs ih =>
    rcases hc : pick c with e | _ | p
    · simp only [List.cons_append, firstPick, hc]
    · rw [List.cons_append, firstPick_cons_none hc, firstPick_cons_none hc, ih]
    · simp only [List.cons_append, firstPick, hc]

/-- Nothing of a list ordered by rank comes before its head. -/
theorem not_lt_head {c₀ : Candidate} {cs : List Candidate} (hfirst : ∀ c ∈ cs, c₀ < c) :
    ∀ c ∈ c₀ :: cs, ¬ c < c₀ := by
  intro c hmem hlt
  rcases List.mem_cons.1 hmem with rfl | hmem
  · exact Nat.lt_irrefl _ hlt
  · exact Nat.lt_asymm hlt (hfirst c hmem)

/-- A head that yields none keeps every source before `c` yielding none. -/
theorem none_before_cons {c₀ c : Candidate} {cs : List Candidate} (hc : pick c₀ = .ok none)
    (h : ∀ c' ∈ cs, c' < c → pick c' = .ok none) :
    ∀ c' ∈ c₀ :: cs, c' < c → pick c' = .ok none := by
  intro c' hmem hlt
  rcases List.mem_cons.1 hmem with rfl | hmem
  · exact hc
  · exact h c' hmem hlt

/-- With nothing picked, every source yields none. -/
theorem firstPick_none {cs : List Candidate} (h : firstPick pick cs = .ok none) :
    ∀ c ∈ cs, pick c = .ok none := by
  induction cs with
  | nil => simp
  | cons c' cs ih =>
    rcases hc : pick c' with e | _ | p
    · simp only [firstPick, hc] at h
      cases h
    · rw [firstPick_cons_none hc] at h
      intro c hmem
      rcases List.mem_cons.1 hmem with rfl | hmem
      · exact hc
      · exact ih h c hmem
    · simp only [firstPick, hc] at h
      cases h

/-- A pick comes from a source of the list that yields it, and every source before it in the
order of trial yields none. -/
theorem firstPick_some {cs : List Candidate} {c : Candidate} {p : Vec}
    (hs : cs.Pairwise (· < ·)) (h : firstPick pick cs = .ok (some (c, p))) :
    c ∈ cs ∧ pick c = .ok (some p) ∧ ∀ c' ∈ cs, c' < c → pick c' = .ok none := by
  induction cs with
  | nil => cases h
  | cons c₀ cs ih =>
    obtain ⟨hfirst, hs⟩ := List.pairwise_cons.1 hs
    rcases hc : pick c₀ with e | _ | p₀
    · simp only [firstPick, hc] at h
      cases h
    · rw [firstPick_cons_none hc] at h
      obtain ⟨hmem, hpick, hbefore⟩ := ih hs h
      exact ⟨List.mem_cons_of_mem c₀ hmem, hpick, none_before_cons hc hbefore⟩
    · simp only [firstPick, hc, Except.ok.injEq, Option.some.injEq, Prod.mk.injEq] at h
      obtain ⟨rfl, rfl⟩ := h
      exact ⟨List.mem_cons_self, hc, fun c' hmem hlt => absurd hlt (not_lt_head hfirst c' hmem)⟩

/-- A failure comes from a source of the list, and every source before it in the order of trial
yields none. -/
theorem firstPick_error {cs : List Candidate} {e : SampleError}
    (hs : cs.Pairwise (· < ·)) (h : firstPick pick cs = .error e) :
    ∃ c ∈ cs, pick c = .error e ∧ ∀ c' ∈ cs, c' < c → pick c' = .ok none := by
  induction cs with
  | nil => cases h
  | cons c₀ cs ih =>
    obtain ⟨hfirst, hs⟩ := List.pairwise_cons.1 hs
    rcases hc : pick c₀ with e₀ | _ | p₀
    · rw [firstPick, hc] at h
      cases h
      exact ⟨c₀, List.mem_cons_self, hc, fun c' hmem hlt => absurd hlt (not_lt_head hfirst c' hmem)⟩
    · rw [firstPick_cons_none hc] at h
      obtain ⟨c, hmem, hpick, hbefore⟩ := ih hs h
      exact ⟨c, List.mem_cons_of_mem c₀ hmem, hpick, none_before_cons hc hbefore⟩
    · simp only [firstPick, hc] at h
      cases h

end FirstPick

/-- Orientation without a kept target: the nearest point of the aim line, its samples, then the
samples of the leg. -/
theorem freshTarget_eq_firstPick (f : RouteFollower) (s : Stop) (visible : Vec → Bool)
    (pos : Vec) (now : Float) :
    freshTarget s visible pos (f.sampleStep s) =
      (firstPick (f.pick s visible pos now) [.nearest, .lineSample, .legSample]).map
        (Option.map Prod.snd) := by
  unfold freshTarget
  simp only [firstPick, pick, Stop.aimLine]
  by_cases hv : visible ((s.targetLine.getD ⟨s.position, s.position⟩).closest pos) = true
  · simp only [hv, if_true]
    rfl
  · simp only [hv]
    cases hs : (s.targetLine.getD ⟨s.position, s.position⟩).sample (f.sampleStep s) with
    | error e => rfl
    | ok ps =>
      simp only [except_ok_bind, Except.map]
      cases hb : bestVisible visible (fun p => pos.dist p) ps with
      | some p => rfl
      | none =>
        cases hc : s.connection with
        | none => rfl
        | some conn =>
          dsimp only
          cases hl : conn.sample (f.sampleStep s) with
          | error e => rfl
          | ok qs =>
            dsimp only [except_ok_bind]
            cases bestVisible visible (fun p => pos.dist p + p.dist s.position) qs <;> rfl

/-- A bind fails with the failure of its first step when its continuation never fails. -/
theorem except_eq_error_of_bind {ε α β : Type} {x : Except ε α} {k : α → Except ε β} {e : ε}
    (h : x >>= k = .error e) (hk : ∀ a e', k a ≠ .error e') : x = .error e := by
  cases x with
  | error e' =>
    have h' : (Except.error e' : Except ε β) = .error e := h
    cases h'
    rfl
  | ok a => exact absurd h (hk a e)

/-- A map fails with the failure of what it maps. -/
theorem except_eq_error_of_map {ε α β : Type} {x : Except ε α} {g : α → β} {e : ε}
    (h : x.map g = .error e) : x = .error e := by
  cases x with
  | error e' =>
    have h' : (Except.error e' : Except ε β) = .error e := h
    cases h'
    rfl
  | ok a => cases h

section Bridge

variable {f g : RouteFollower} {s : Stop} {visible : Vec → Bool} {pos : Vec} {now : Float}

/-- Without a kept target the cascade tries the fresh sources, then the last good place. -/
theorem firstPick_all_of_not_kept (hk : f.keptTarget pos now = none) :
    firstPick (f.pick s visible pos now) Candidate.all =
      match firstPick (f.pick s visible pos now) [.nearest, .lineSample, .legSample] with
      | .ok none => firstPick (f.pick s visible pos now) [.lastGood]
      | r => r := by
  rw [show Candidate.all = .kept :: ([.nearest, .lineSample, .legSample] ++ [.lastGood]) from rfl,
    firstPick_cons_none (by simp only [pick, hk]), firstPick_append]

/-- An orientation that succeeds settles on the first pick of the cascade. -/
theorem orientTo_settles (h : f.orientTo s visible pos now = .ok g) :
    ∃ choice, firstPick (f.pick s visible pos now) Candidate.all = .ok choice ∧
      g = f.settle s pos now choice := by
  unfold orientTo at h
  dsimp only at h
  split at h
  · -- the previous target is kept
    rename_i p hk
    have hkept : f.keptTarget pos now = some p := hk
    simp only [hk, pure_bind, Option.isSome_some, Option.isSome_none, if_true,
      Bool.false_eq_true, if_false] at h
    cases h
    exact ⟨some (.kept, p), by simp only [Candidate.all, firstPick, pick, hkept], rfl⟩
  · rename_i hk
    have hkept : f.keptTarget pos now = none := hk
    simp only [hk, Option.isSome_none, Bool.false_eq_true, if_false] at h
    obtain ⟨found, hf, hj⟩ := except_bind_eq_ok h
    rw [show s.width / Elementary.maxOf f.tuning.samplingDivisor 1.0 = f.sampleStep s from rfl,
      freshTarget_eq_firstPick f s visible pos now] at hf
    have hall : firstPick (f.pick s visible pos now) Candidate.all = _ :=
      firstPick_all_of_not_kept hkept
    rcases hfp : firstPick (f.pick s visible pos now) [.nearest, .lineSample, .legSample] with
      e | _ | ⟨c, p⟩
    · rw [hfp] at hf
      cases hf
    · rw [hfp] at hf hall
      cases hf
      simp only [Option.map_none] at hj hall
      -- nothing is found afresh: what is left is the last good place; the follower is taken
      -- apart so that its last good place is a variable on both sides
      cases f with
      | mk pedestrian tuning route inert dest visited visitedSet clock waiting waitUntil
          needsOrientation courseDeviation passed lost direction aim lastGood lastDeviationCheck
          lastOrientationTime startTime completed segStart average hasAverage =>
      cases lastGood with
      | none =>
        cases hj
        exact ⟨none, by rw [hall]; rfl, rfl⟩
      | some q =>
        by_cases hq : (decide (pos.dist q > tolerance) && visible q) = true
        · simp only [hq, if_true, Option.isSome_some] at hj
          cases hj
          refine ⟨some (.lastGood, q), ?_, rfl⟩
          rw [hall]
          simp only [firstPick, pick, hq, if_true]
        · simp only [hq, Bool.false_eq_true, if_false] at hj
          cases hj
          refine ⟨none, ?_, rfl⟩
          rw [hall]
          simp only [firstPick, pick, hq, Bool.false_eq_true, if_false]
    · rw [hfp] at hf hall
      cases hf
      obtain ⟨hc, -⟩ := firstPick_some (by decide) hfp
      simp only [Option.map_some] at hj
      cases hj
      refine ⟨some (c, p), hall, ?_⟩
      simp only [List.mem_cons, List.not_mem_nil, or_false] at hc
      rcases hc with rfl | rfl | rfl <;> rfl

/-- An orientation that fails does so with the first failure of the cascade. -/
theorem orientTo_fails {e : SampleError} (h : f.orientTo s visible pos now = .error e) :
    firstPick (f.pick s visible pos now) Candidate.all = .error e := by
  unfold orientTo at h
  dsimp only at h
  split at h
  · simp only [pure_bind] at h
    split at h <;> cases h
  · rename_i hk
    have hkept : f.keptTarget pos now = none := hk
    -- the end of an orientation never fails, so the fresh target did
    rw [show s.width / Elementary.maxOf f.tuning.samplingDivisor 1.0 = f.sampleStep s from rfl] at h
    have hf : freshTarget s visible pos (f.sampleStep s) = .error e :=
      except_eq_error_of_bind h fun found e' hj => by
        split at hj <;> cases hj
    rw [freshTarget_eq_firstPick f s visible pos now] at hf
    rw [firstPick_all_of_not_kept hkept, except_eq_error_of_map hf]

end Bridge

/-- **Orientation is the cascade, settled.** -/
theorem orientTo_eq_settle (f : RouteFollower) (s : Stop) (visible : Vec → Bool) (pos : Vec)
    (now : Float) :
    f.orientTo s visible pos now =
      (firstPick (f.pick s visible pos now) Candidate.all).map (f.settle s pos now) := by
  cases h : f.orientTo s visible pos now with
  | error e =>
    rw [orientTo_fails h]
    rfl
  | ok g =>
    obtain ⟨choice, hc, rfl⟩ := orientTo_settles h
    rw [hc]
    rfl

/-! ## What each source yields -/

section Sources

variable {f : RouteFollower} {s : Stop} {visible : Vec → Bool} {pos : Vec} {now : Float}

/-- A source that yields none offers nothing. -/
theorem pick_none {c : Candidate} (h : f.pick s visible pos now c = .ok none) (p : Vec) :
    ¬ f.Offers s visible pos now c p := by
  cases c with
  | kept =>
    rintro ⟨a, ha, rfl, hp, hd, hdist, htime⟩
    simp [pick, keptTarget, ha, hp, hd, hdist, htime] at h
  | nearest =>
    rintro ⟨rfl, hv⟩
    simp [pick, hv] at h
  | lineSample =>
    rintro ⟨ps, hs, hmem, hv, hlt⟩
    simp only [pick, hs, Except.map, Except.ok.injEq] at h
    exact (bestVisible_eq_none_iff ps).1 h p hmem hv hlt
  | legSample =>
    rintro ⟨conn, ps, hc, hs, hmem, hv, hlt⟩
    simp only [pick, hc, hs, Except.map, Except.ok.injEq] at h
    exact (bestVisible_eq_none_iff ps).1 h p hmem hv hlt
  | lastGood =>
    rintro ⟨hl, hd, hv⟩
    simp [pick, hl, hd, hv] at h

/-- What a source yields is the point it settles on. -/
theorem pick_some {c : Candidate} {p : Vec} (h : f.pick s visible pos now c = .ok (some p)) :
    f.Picks s visible pos now c p := by
  cases c with
  | kept =>
    simp only [pick, keptTarget, Except.ok.injEq] at h
    split at h
    · rename_i a ha
      split_ifs at h with hc
      cases h
      simp only [Bool.and_eq_true, Bool.not_eq_eq_eq_not, Bool.not_true, decide_eq_true_eq] at hc
      exact ⟨a, ha, rfl, hc.1.1.1, hc.1.1.2, hc.1.2, hc.2⟩
    · cases h
  | nearest =>
    simp only [pick, Except.ok.injEq] at h
    split_ifs at h with hv
    cases h
    exact ⟨rfl, hv⟩
  | lineSample =>
    cases hs : s.aimLine.sample (f.sampleStep s) with
    | error e => simp [pick, hs, Except.map] at h
    | ok ps =>
      simp only [pick, hs, Except.map, Except.ok.injEq] at h
      exact ⟨ps, hs, bestVisible_isBest h⟩
  | legSample =>
    cases hc : s.connection with
    | none => simp [pick, hc] at h
    | some conn =>
      cases hs : conn.sample (f.sampleStep s) with
      | error e => simp [pick, hc, hs, Except.map] at h
      | ok ps =>
        simp only [pick, hc, hs, Except.map, Except.ok.injEq] at h
        exact ⟨conn, ps, hc, hs, bestVisible_isBest h⟩
  | lastGood =>
    simp only [pick, Except.ok.injEq] at h
    split at h
    · rename_i q hl
      split_ifs at h with hq
      cases h
      simp only [Bool.and_eq_true, decide_eq_true_eq] at hq
      exact ⟨hl, hq.1, hq.2⟩
    · cases h

/-- A source fails only when the samples it needs cannot be taken. -/
theorem pick_error {c : Candidate} {e : SampleError} (h : f.pick s visible pos now c = .error e) :
    f.Fails s c e := by
  cases c with
  | lineSample => exact except_eq_error_of_map h
  | legSample =>
    cases hc : s.connection with
    | none => simp [pick, hc] at h
    | some conn =>
      simp only [pick, hc] at h
      exact ⟨conn, hc, except_eq_error_of_map h⟩
  | kept | nearest | lastGood => cases h

end Sources

/-! ## The settled follower -/

section Settle

variable (f : RouteFollower) (s : Stop) (pos : Vec) (now : Float)

@[simp] theorem settle_lost (choice : Option (Candidate × Vec)) :
    (f.settle s pos now choice).lost = choice.isNone := by
  unfold settle
  rcases choice with _ | ⟨c, p⟩
  · rfl
  · dsimp only
    split_ifs <;> rfl

theorem settle_aim (c : Candidate) (p : Vec) :
    (f.settle s pos now (some (c, p))).aim = if c = .kept then f.aim else some ⟨p, now, pos⟩ := by
  unfold settle
  dsimp only
  split_ifs <;> rfl

/-- A settled follower targets the point its source yields. -/
theorem settle_targets {visible : Vec → Bool} {c : Candidate} {p : Vec}
    (h : f.pick s visible pos now c = .ok (some p)) :
    ∃ a, (f.settle s pos now (some (c, p))).aim = some a ∧ a.point = p := by
  rw [settle_aim]
  split_ifs with hc
  · -- the kept target is the previous one
    subst hc
    obtain ⟨a, ha, hp, -⟩ := pick_some h
    exact ⟨a, ha, hp⟩
  · exact ⟨⟨p, now, pos⟩, rfl, rfl⟩

end Settle

/-- What an orientation toward `s` may end in by the cascade: a follower that is lost exactly
when no source offers an acceptable point and otherwise targets the point the first source
offering one settles on; or the failure of a source's samples, no source before it offering
anything. -/
def SettlesOn (f : RouteFollower) (s : Stop) (visible : Vec → Bool) (pos : Vec) (now : Float) :
    Except SampleError RouteFollower → Prop
  | .ok g =>
    (g.lost = true ↔ ∀ c p, ¬ f.Offers s visible pos now c p) ∧
      (g.lost = false → ∃ c a, g.aim = some a ∧ f.Picks s visible pos now c a.point ∧
        ∀ c' < c, ∀ p, ¬ f.Offers s visible pos now c' p)
  | .error e => ∃ c, f.Fails s c e ∧ ∀ c' < c, ∀ p, ¬ f.Offers s visible pos now c' p

/-- Settling is read off the lost flag and the target only. -/
theorem SettlesOn.of_ok {f g g' : RouteFollower} {s : Stop} {visible : Vec → Bool} {pos : Vec}
    {now : Float} (h : f.SettlesOn s visible pos now (.ok g)) (hl : g'.lost = g.lost)
    (ha : g'.aim = g.aim) : f.SettlesOn s visible pos now (.ok g') := by
  simp only [SettlesOn, hl, ha] at h ⊢
  exact h

theorem orientTo_settlesOn (f : RouteFollower) (s : Stop) (visible : Vec → Bool) (pos : Vec)
    (now : Float) : f.SettlesOn s visible pos now (f.orientTo s visible pos now) := by
  rw [orientTo_eq_settle]
  rcases h : firstPick (f.pick s visible pos now) Candidate.all with e | _ | ⟨c, p⟩
  · -- a source the cascade reached could not take its samples
    obtain ⟨c, -, hc, hbefore⟩ := firstPick_error Candidate.all_pairwise h
    exact ⟨c, pick_error hc, fun c' hlt => pick_none (hbefore c' (Candidate.mem_all c') hlt)⟩
  · -- no source yields a point
    have hnone := firstPick_none h
    refine ⟨⟨fun _ c => pick_none (hnone c (Candidate.mem_all c)), fun _ => rfl⟩, ?_⟩
    intro hlost
    simp at hlost
  · -- the first source that yields a point
    obtain ⟨-, hc, hbefore⟩ := firstPick_some Candidate.all_pairwise h
    refine ⟨⟨fun hlost => by simp at hlost, fun hno => absurd (pick_some hc).offers (hno c p)⟩,
      fun _ => ?_⟩
    obtain ⟨a, ha, rfl⟩ := settle_targets f s pos now hc
    exact ⟨c, a, ha, pick_some hc,
      fun c' hlt => pick_none (hbefore c' (Candidate.mem_all c') hlt)⟩

/-- **The orientation cascade.** An orientation toward waypoint `s` that succeeds leaves the
follower lost exactly when no source offers an acceptable point; otherwise it targets the point
that the first source offering one settles on. An orientation that fails does so because the
samples of a source cannot be taken, no source before it offering anything. -/
theorem orientation_settles_on_first_acceptable (f : RouteFollower) (s : Stop)
    (visible : Vec → Bool) (pos : Vec) (now : Float) :
    match f.orientTo s visible pos now with
    | .ok g =>
      (g.lost = true ↔ ∀ c p, ¬ f.Offers s visible pos now c p) ∧
      (g.lost = false → ∃ c a, g.aim = some a ∧ f.Picks s visible pos now c a.point ∧
        ∀ c' < c, ∀ p, ¬ f.Offers s visible pos now c' p)
    | .error e => ∃ c, f.Fails s c e ∧ ∀ c' < c, ∀ p, ¬ f.Offers s visible pos now c' p :=
  orientTo_settlesOn f s visible pos now

/-! ## The cascade in the tick -/

/-- Tracking progress changes the average velocity and its flag only. -/
theorem trackProgress_frame (f : RouteFollower) (inp : Input) :
    f.trackProgress inp = { f with average := (f.trackProgress inp).average,
                                   hasAverage := (f.trackProgress inp).hasAverage } := by
  unfold trackProgress
  dsimp only
  split_ifs <;> rfl

/-- The course check changes the time of the check and the deviation flag only. -/
theorem checkCourse_frame (f : RouteFollower) (inp : Input) :
    f.checkCourse inp = { f with lastDeviationCheck := (f.checkCourse inp).lastDeviationCheck,
                                 courseDeviation := (f.checkCourse inp).courseDeviation } := by
  unfold checkCourse
  split
  · dsimp only
    split_ifs <;> rfl
  · rfl

/-- Orienting toward the destination `s` is orienting toward `s` with the sight of the index. -/
theorem orient_settlesOn (g : RouteFollower) (env : Option Index) (pos : Vec) (now : Float)
    {s : Stop} (hd : g.destination = some s) :
    g.SettlesOn s (sightFrom env pos) pos now (g.orient env pos now) := by
  unfold orient
  rw [hd]
  exact orientTo_settlesOn g s _ pos now

/-- Orienting toward the destination and then checking the course, as a tick does: the course
check keeps what orientation settled on. -/
theorem orient_then_check (g : RouteFollower) (env : Option Index) (inp : Input) {s : Stop}
    (hd : g.destination = some s) :
    match (match g.orient env inp.position inp.now with
      | .error e => ((Except.error e : Except SampleError Vec), g)
      | .ok g' => (.ok (g'.checkCourse inp).direction, g'.checkCourse inp)) with
    | (.ok d, g') =>
      d = g'.direction ∧ g.SettlesOn s (sightFrom env inp.position) inp.position inp.now (.ok g')
    | (.error e, _) => g.SettlesOn s (sightFrom env inp.position) inp.position inp.now (.error e) := by
  have ho := orient_settlesOn g env inp.position inp.now hd
  revert ho
  generalize g.orient env inp.position inp.now = r
  rcases r with e | g'
  · exact id
  · intro ho
    exact ⟨rfl, ho.of_ok (by rw [checkCourse_frame]) (by rw [checkCourse_frame])⟩

/-- **The cascade in the part of a tick after waiting.** When orientation is due toward the
destination `s`, the tick's move either breaks off with the failure of a source's samples, no
source before it offering anything, or returns the follower's direction with the follower lost
exactly when no source offers a point the pedestrian sees from where it stands, and otherwise
targeting the pick of the first source that does. -/
theorem advance_settles_on_first_acceptable (f : RouteFollower) (env : Option Index)
    (inp : Input) {s : Stop} (hdest : f.destination = some s)
    (hdue : f.needsOrientation = true ∨ f.courseDeviation = true ∨ f.passed = true) :
    match f.advance env inp with
    | (.ok d, g) =>
      d = g.direction ∧ f.SettlesOn s (sightFrom env inp.position) inp.position inp.now (.ok g)
    | (.error e, _) => f.SettlesOn s (sightFrom env inp.position) inp.position inp.now (.error e) := by
  -- tracking progress and the slow-progress check change nothing orientation reads
  obtain ⟨a, b, hf⟩ : ∃ a b, f.trackProgress inp = { f with average := a, hasAverage := b } :=
    ⟨_, _, trackProgress_frame f inp⟩
  unfold advance
  rw [hf]
  dsimp only
  split_ifs with hslow hdo hdo
  · exact orient_then_check _ env inp hdest
  · simp at hdo
  · exact orient_then_check _ env inp hdest
  · exfalso
    apply hdo
    rcases hdue with h | h | h <;> simp [h]

/-- **The cascade in a tick.** A follower that is not waiting, whose destination is `s` and
whose orientation is due, settles in its tick as the cascade says, seeing from where the
pedestrian stands. -/
theorem step_settles_on_first_acceptable (f : RouteFollower) (env : Option Index) (inp : Input)
    {s : Stop} (hwait : f.waiting = false) (hdest : f.destination = some s)
    (hdue : f.needsOrientation = true ∨ f.courseDeviation = true ∨ f.passed = true) :
    match f.step env inp with
    | (.ok d, g) =>
      d = g.direction ∧ f.SettlesOn s (sightFrom env inp.position) inp.position inp.now (.ok g)
    | (.error e, _) => f.SettlesOn s (sightFrom env inp.position) inp.position inp.now (.error e) := by
  -- a follower with a destination has not finished
  have hfin : f.finished = false := by
    unfold destination at hdest
    unfold finished
    cases hi : f.inert <;> cases hd : f.dest <;> simp_all
  rw [step_of_moving hfin hwait]
  exact advance_settles_on_first_acceptable _ env inp hdest hdue

/-- A waypoint at the far end of the plane, its target line two metres across the way. -/
def farStop : Stop :=
  { (default : Stop) with
    position := ⟨0.0, -1.7e308⟩
    width := 2.0
    targetLine := some ⟨⟨-1.0, -1.7e308⟩, ⟨1.0, -1.7e308⟩⟩ }

/-- Sight on open ground: every point with finite coordinates is seen. -/
def farSight (p : Vec) : Bool := !p.isNaN

/-- A follower whose sampling divisor is infinite, so that a line is sampled at its ends only. -/
def endSampler : RouteFollower := init 1 { Tuning.default with samplingDivisor := 1.0 / 0.0 }

/-- **A sample at an infinite distance is never taken.** From the other end of the plane, the end
sampler sees a sample of the aim line, yet it ends lost: the distance to every sample overflows to
infinity, which the scan for the nearest one does not accept. -/
theorem far_samples_leave_follower_lost :
    (farStop.aimLine.sample (endSampler.sampleStep farStop)).toOption.map (·.any farSight) =
        some true ∧
      (endSampler.orientTo farStop farSight ⟨0.0, 1.7e308⟩ 1.0).toOption.map (·.lost) =
        some true := by
  decide +kernel

end RouteFollower

end CrowdSim
