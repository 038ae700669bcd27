import Mathlib
import CrowdSim.Proofs.RouteProgress

/-!
# Waiting at a waypoint

A displacement that passes a waypoint with a positive waiting period arms a wait: the `waiting`
flag is set and `waitUntil` is the follower's clock plus the period. This module shows what the
wait holds and how it ends:

* `SameWait`: the parts of a tick after waiting, and marking waypoints visited, keep the clock and
  the wait (`advance_sameWait`, `rederive_sameWait`);
* `updateSegment_of_waiting`, `step_of_waiting_before`, `step_of_finished`: while a wait runs,
  displacement reports change nothing and ticks before its end return zero and only set the
  clock; a finished follower ignores every tick;
* `skipBehind_run`: after waiting, the waypoints marked visited are exactly the consecutive ones
  from the destination on that lie behind the pedestrian's projection onto the route;
* `Call.arms`, `run_now`: only a displacement report that passes the destination arms a wait, its
  waiting period being positive, and its end is the time of the latest tick or assignment plus
  that period;
* `waiting_holds_until_deadline`: all of it together.

A wait armed at the last waypoint leaves the follower finished, and a finished follower ignores
every tick, so its flag is never cleared (`finished_wait_stays_armed`); it reads as over once
the clock passes its end.
-/

namespace CrowdSim

namespace RouteFollower

/-! ## The clock and the wait pass through a tick -/

/-- Two states agree on the clock and on the waiting period. -/
structure SameWait (f g : RouteFollower) : Prop where
  now : g.now = f.now
  waiting : g.waiting = f.waiting
  waitUntil : g.waitUntil = f.waitUntil

theorem SameWait.refl (f : RouteFollower) : SameWait f f := ⟨rfl, rfl, rfl⟩

theorem SameWait.trans {f g h : RouteFollower} (h₁ : SameWait f g) (h₂ : SameWait g h) :
    SameWait f h :=
  ⟨h₂.now.trans h₁.now, h₂.waiting.trans h₁.waiting, h₂.waitUntil.trans h₁.waitUntil⟩

theorem trackProgress_sameWait (f : RouteFollower) (inp : Input) :
    SameWait f (f.trackProgress inp) := by
  unfold trackProgress
  dsimp only
  split_ifs
  · exact .refl f
  · exact ⟨rfl, rfl, rfl⟩

theorem checkCourse_sameWait (f : RouteFollower) (inp : Input) :
    SameWait f (f.checkCourse inp) := by
  unfold checkCourse
  split
  · dsimp only
    split_ifs <;> exact ⟨rfl, rfl, rfl⟩
  · exact .refl f

theorem orientTo_sameWait {f g : RouteFollower} {s : Stop} {visible : Vec → Bool} {pos : Vec}
    {now : Float} (h : f.orientTo s visible pos now = .ok g) : SameWait f g := by
  unfold orientTo at h
  dsimp only at h
  split at h
  · split at h <;> cases h <;> constructor <;> (dsimp only; split_ifs <;> rfl)
  · obtain ⟨found, -, hk⟩ := except_bind_eq_ok h
    split at hk <;> cases hk
    · exact ⟨rfl, rfl, rfl⟩
    · constructor <;> (dsimp only; split_ifs <;> rfl)

theorem orient_sameWait {f g : RouteFollower} {env : Option Index} {pos : Vec} {now : Float}
    (h : f.orient env pos now = .ok g) : SameWait f g := by
  unfold orient at h
  split at h
  · exact orientTo_sameWait h
  · cases h
    exact .refl f

/-- Orienting if asked to and checking the course keep the clock and the wait. -/
theorem orientAndCheck_sameWait (f : RouteFollower) (c : Bool) (env : Option Index) (inp : Input) :
    SameWait f
      (match (if c = true then f.orient env inp.position inp.now else .ok f) with
        | .error e => ((.error e : Except SampleError Vec), f)
        | .ok g => (.ok (g.checkCourse inp).direction, g.checkCourse inp)).2 := by
  split
  · exact .refl f
  · rename_i g hg
    refine SameWait.trans ?_ (checkCourse_sameWait g inp)
    split at hg
    · exact orient_sameWait hg
    · cases hg
      exact .refl f

/-- **The part of a tick after waiting keeps the clock and the wait.** -/
theorem advance_sameWait (f : RouteFollower) (env : Option Index) (inp : Input) :
    SameWait f (f.advance env inp).2 := by
  -- the slow-progress check only asks for an orientation
  have hslow : ∀ (g : RouteFollower) (c : Bool),
      SameWait g (if c = true then { g with needsOrientation := true } else g) := by
    intro g c
    split
    · exact ⟨rfl, rfl, rfl⟩
    · exact .refl g
  unfold advance
  exact (trackProgress_sameWait f inp).trans ((hslow _ _).trans (orientAndCheck_sameWait _ _ env inp))

theorem visit_sameWait (f : RouteFollower) (i : Nat) : SameWait f (f.visit i) := by
  unfold visit
  split
  · exact .refl f
  · exact ⟨rfl, rfl, rfl⟩

theorem completeSegment_sameWait (f : RouteFollower) (i : Nat) :
    SameWait f (f.completeSegment i) := by
  unfold completeSegment
  split
  · exact .refl f
  · have h := visit_sameWait f i
    exact ⟨h.now, h.waiting, h.waitUntil⟩

theorem skipBehind_sameWait (along : Float) :
    ∀ (fuel : Nat) (f : RouteFollower), SameWait f (skipBehind along fuel f) := by
  intro fuel
  induction fuel with
  | zero => exact SameWait.refl
  | succ fuel ih =>
    intro f
    unfold skipBehind
    split
    · exact .refl f
    · rename_i i _
      split
      · split
        · have h := completeSegment_sameWait f i
          dsimp only
          refine SameWait.trans ⟨h.now, h.waiting, h.waitUntil⟩ (SameWait.trans ?_ (ih _))
          exact ⟨rfl, rfl, rfl⟩
        · exact .refl f
      · exact .refl f

/-- Marking the waypoints left behind keeps the clock and the wait. -/
theorem rederive_sameWait (f : RouteFollower) (pos : Vec) : SameWait f (f.rederive pos) := by
  have h := skipBehind_sameWait ((f.route.map fun r => r.project pos).getD 0.0) f.stops.length f
  exact ⟨h.now, h.waiting, h.waitUntil⟩

/-! ## While a wait runs -/

/-- **A running wait ignores displacement reports.** -/
theorem updateSegment_of_waiting {f : RouteFollower} (hw : f.waiting = true) (src dst : Vec) :
    f.updateSegment src dst = f := by
  simp [updateSegment, hw]

/-- **A finished follower ignores ticks**: it returns zero and only sets its clock. -/
theorem step_of_finished {f : RouteFollower} (hf : f.finished = true) (env : Option Index)
    (inp : Input) : f.step env inp = (.ok Vec.zero, { f with now := inp.now }) := by
  have hf' : ({ f with now := inp.now } : RouteFollower).finished = true := hf
  simp only [step, hf', if_true]

/-- **A tick before the end of a wait returns zero and only sets the clock.** -/
theorem step_of_waiting_before {f : RouteFollower} (hw : f.waiting = true) {inp : Input}
    (hlt : inp.now < f.waitUntil) (env : Option Index) :
    f.step env inp = (.ok Vec.zero, { f with now := inp.now }) := by
  unfold step
  dsimp only
  split_ifs <;> rfl

/-- A tick sets the clock and keeps the end of any wait; it never arms one. -/
theorem step_wait (f : RouteFollower) (env : Option Index) (inp : Input) :
    (f.step env inp).2.now = inp.now ∧ (f.step env inp).2.waitUntil = f.waitUntil ∧
      ((f.step env inp).2.waiting = true → f.waiting = true) := by
  -- the end of a wait clears the flag, then marks the waypoints left behind
  have hre := rederive_sameWait { f with now := inp.now, waiting := false } inp.position
  have hwake := hre.trans (advance_sameWait _ env inp)
  have htick := advance_sameWait { f with now := inp.now } env inp
  unfold step
  dsimp only
  split_ifs with hfin hw hlt hnone
  · exact ⟨rfl, rfl, id⟩
  · exact ⟨rfl, rfl, id⟩
  · exact ⟨hre.now, hre.waitUntil, fun h => by rw [hre.waiting] at h; simp at h⟩
  · exact ⟨hwake.now, hwake.waitUntil, fun h => by rw [hwake.waiting] at h; simp at h⟩
  · exact ⟨htick.now, htick.waitUntil, fun h => by rw [htick.waiting] at h; exact h⟩

/-! ## The waypoints marked after waiting -/

/-- From index `i` up to before `j` the waypoints lie behind `a` along the route, and `j` is past
the last waypoint or not behind `a`: the consecutive waypoints from `i` on that lie behind `a`. -/
structure BehindRun (stops : List Stop) (a : Float) (i j : Nat) : Prop where
  le : i ≤ j
  le_length : j ≤ stops.length
  behind : ∀ k (hk : k < stops.length), i ≤ k → k < j → stops[k].along < a
  stop : ∀ hj : j < stops.length, ¬ stops[j].along < a

/-- The run ends at once at a waypoint that is not behind, or past the last one. -/
theorem BehindRun.refl {stops : List Stop} {a : Float} {i : Nat} (hi : i ≤ stops.length)
    (hstop : ∀ hi : i < stops.length, ¬ stops[i].along < a) : BehindRun stops a i i :=
  ⟨le_rfl, hi, fun _ _ h1 h2 => absurd h2 (Nat.not_lt.mpr h1), hstop⟩

/-- A waypoint behind `a` extends the run that follows it. -/
theorem BehindRun.cons {stops : List Stop} {a : Float} {i j : Nat} (hi : i < stops.length)
    (hbehind : stops[i].along < a) (h : BehindRun stops a (i + 1) j) : BehindRun stops a i j where
  le := by have := h.le; omega
  le_length := h.le_length
  behind k hk h1 h2 := by
    rcases Nat.eq_or_lt_of_le h1 with rfl | h1
    · exact hbehind
    · exact h.behind k hk h1 h2
  stop := h.stop

/-- A well-formed follower's destination, read off its index. -/
theorem Progress.dest_eq {f : RouteFollower} (hp : f.Progress) :
    f.dest = if f.destIndex < f.stops.length then some f.destIndex else none := by
  unfold destIndex
  cases hd : f.dest with
  | none => simp
  | some k => simp [hp.dest_lt k hd]

/-- A well-formed follower's destination index is at most the number of waypoints. -/
theorem Progress.destIndex_le {f : RouteFollower} (hp : f.Progress) :
    f.destIndex ≤ f.stops.length := by
  unfold destIndex
  cases hd : f.dest with
  | none => simp
  | some k => exact (hp.dest_lt k hd).le

/-- Passing the destination `i` of a well-formed follower makes `i + 1` the destination index. -/
theorem Progress.pass_destIndex {f : RouteFollower} {i : Nat} (hp : f.Progress)
    (hd : f.dest = some i) :
    let g := f.completeSegment i
    ({ g with dest := g.nextUnvisited (i + 1) } : RouteFollower).destIndex = i + 1 := by
  intro g
  have hi : i < f.stops.length := hp.dest_lt i hd
  have hdi : f.destIndex = i := by simp [destIndex, hd]
  have hsame : SameProgress (f.visit i) g := completeSegment_same f hi
  have hstops : g.stops = f.stops := by rw [hsame.stops, visit_stops]
  have hbelow : g.VisitedBelow (i + 1) := (hdi ▸ hp.visitedBelow).visit.of_same hsame
  have hnext := hbelow.nextUnvisited_eq (hstops ▸ hi)
  show (g.nextUnvisited (i + 1)).getD g.stops.length = i + 1
  rw [hnext, hstops]
  split
  · rfl
  · simp only [Option.getD_none]
    omega

/-- **Marking the waypoints behind a point visits the run from the destination.** On a
well-formed follower, with enough steps, the destination index moves from its place to the end of
the run of consecutive waypoints behind `a` that starts there. -/
theorem skipBehind_run (a : Float) :
    ∀ (fuel : Nat) (f : RouteFollower), f.Progress → f.stops.length - f.destIndex ≤ fuel →
      BehindRun f.stops a f.destIndex (skipBehind a fuel f).destIndex := by
  intro fuel
  induction fuel with
  | zero =>
    intro f hp hfuel
    exact .refl hp.destIndex_le fun h => absurd h (by omega)
  | succ fuel ih =>
    intro f hp hfuel
    unfold skipBehind
    split
    · rename_i hd
      exact .refl hp.destIndex_le fun h => absurd h (by simp [destIndex, hd])
    · rename_i i hd
      have hi : i < f.stops.length := hp.dest_lt i hd
      have hdi : f.destIndex = i := by simp [destIndex, hd]
      rw [List.getElem?_eq_getElem hi]
      dsimp only
      split
      · -- the destination is behind: pass it and go on from the next one
        rename_i hbehind
        have hpass := hp.pass hd
        have hidx := hp.pass_destIndex hd
        have hstops : ({ f.completeSegment i with
            dest := (f.completeSegment i).nextUnvisited (i + 1) } : RouteFollower).stops =
            f.stops :=
          (completeSegment_same f hi).stops.trans (visit_stops f i)
        have hrun := ih _ hpass.progress (by rw [hidx, hstops]; omega)
        rw [hidx, hstops] at hrun
        rw [hdi]
        exact .cons hi hbehind hrun
      · rename_i hstay
        rw [hdi]
        exact .refl hi.le fun _ => hstay

/-- The tick that ends a wait, on a follower with a destination: the flag is cleared, the
waypoints left behind are marked, and the rest of the tick follows if a destination is left. -/
theorem step_of_waiting_after {f : RouteFollower} (hfin : f.finished = false)
    (hw : f.waiting = true) {inp : Input} (hge : ¬ inp.now < f.waitUntil) (env : Option Index) :
    f.step env inp =
      let g := { f with now := inp.now, waiting := false }.rederive inp.position
      if g.dest.isNone then (.ok Vec.zero, g) else g.advance env inp := by
  have hfin' : ¬ ({ f with now := inp.now } : RouteFollower).finished = true := by
    rw [Bool.not_eq_true]
    exact hfin
  unfold step
  dsimp only
  rw [if_neg hfin', if_pos hw, if_neg hge]

/-- **After waiting, the waypoints left behind are marked, and only they.** On a well-formed
follower whose wait has run out, the tick clears the flag, visits the consecutive waypoints from
the destination on that lie behind the pedestrian's projection onto the route, asks for an
orientation, and goes on with the rest of the tick from there if a destination is left. -/
theorem step_ends_wait {f : RouteFollower} (hp : f.Progress) (hw : f.waiting = true) {inp : Input}
    (hge : ¬ inp.now < f.waitUntil) {i : Nat} (hd : f.dest = some i) (env : Option Index) :
    ∃ (route : Route) (j : Nat) (g : RouteFollower), f.route = some route ∧
      BehindRun f.stops (route.project inp.position) i j ∧
      g.waiting = false ∧ g.needsOrientation = true ∧
      g.visited = f.visited ++ List.range' i (j - i) ∧
      g.dest = (if j < f.stops.length then some j else none) ∧
      f.step env inp = (if j < f.stops.length then g.advance env inp else (.ok Vec.zero, g)) ∧
      (f.step env inp).2.waiting = false := by
  have hi : i < f.stops.length := hp.dest_lt i hd
  have hdi : f.destIndex = i := by simp [destIndex, hd]
  -- a destination means a route with waypoints, so a follower that is not finished
  obtain ⟨route, hroute⟩ : ∃ route, f.route = some route := by
    cases hr : f.route with
    | none => simp [RouteFollower.stops, hr] at hi
    | some route => exact ⟨route, rfl⟩
  have hinert : f.inert = false := by
    rw [← Bool.not_eq_true, hp.inert_iff]
    exact List.ne_nil_of_length_pos (by omega)
  have hfin : f.finished = false := by simp [finished, hinert, hd]
  -- the tick wakes up with the clock set and the flag cleared, then marks
  set f₁ : RouteFollower := { f with now := inp.now, waiting := false } with hf₁
  have hp₁ : f₁.Progress := @SameProgress.progress f f₁ ⟨rfl, rfl, rfl, rfl, rfl⟩ hp
  set g := f₁.rederive inp.position with hg
  have hadv : Advances f₁ g := rederive_advances hp₁ inp.position
  have hstops : g.stops = f.stops := by simp [RouteFollower.stops, hadv.route, hf₁]
  have halong : (f₁.route.map fun r => r.project inp.position).getD 0.0 =
      route.project inp.position := by simp [hf₁, hroute]
  have hrun : BehindRun f.stops (route.project inp.position) i g.destIndex := by
    have hdi₁ : f₁.destIndex = i := hdi
    have h := skipBehind_run ((f₁.route.map fun r => r.project inp.position).getD 0.0)
      f₁.stops.length f₁ hp₁ (by omega)
    rw [hdi₁] at h
    rw [← halong]
    exact h
  have hvisited : g.visited = f.visited ++ List.range' i (g.destIndex - i) := by
    have happ := @List.range'_append_1 0 i (g.destIndex - i)
    rw [Nat.zero_add, Nat.add_sub_cancel' hrun.le] at happ
    rw [hadv.progress.visitedBelow.visited_eq, hp.visitedBelow.visited_eq, hdi,
      List.range_eq_range', List.range_eq_range', happ]
  have hdest : g.dest = if g.destIndex < f.stops.length then some g.destIndex else none := by
    rw [hadv.progress.dest_eq, hstops]
  have hstep := step_of_waiting_after hfin hw hge env
  have hwait : g.waiting = false := (rederive_sameWait f₁ inp.position).waiting
  refine ⟨route, g.destIndex, g, hroute, hrun, hwait, rfl, hvisited, hdest, ?_, ?_⟩
  · rw [hstep]
    dsimp only
    rw [← hg, hdest]
    split <;> rfl
  · rw [hstep]
    dsimp only
    rw [← hg]
    split
    · exact hwait
    · exact (advance_sameWait g env inp).waiting.trans hwait

/-! ## What arms a wait -/

/-- **What a displacement report does.** It changes nothing, or, on a follower that is not
waiting, passes the destination: visits it, moves on to the next unvisited waypoint and, when
the destination's waiting period is positive, arms a wait that ends that period after the
clock. -/
theorem updateSegment_cases (f : RouteFollower) (src dst : Vec) :
    f.updateSegment src dst = f ∨
      ∃ i s, f.waiting = false ∧ f.dest = some i ∧ f.destination = some s ∧
        passes s ⟨src, dst⟩ = true ∧
        f.updateSegment src dst =
          let g := f.completeSegment i
          let g : RouteFollower := { g with dest := g.nextUnvisited (i + 1), passed := true }
          if 0.0 < s.waitingPeriod then { g with waiting := true, waitUntil := g.now + s.waitingPeriod }
          else g := by
  unfold updateSegment
  cases hw : f.waiting
  · simp only [Bool.false_eq_true, if_false]
    split
    · rename_i i s hd hs
      by_cases hpass : passes s ⟨src, dst⟩ = true
      · right
        refine ⟨i, s, by simp, hd, hs, hpass, ?_⟩
        simp only [hpass, Bool.not_true, Bool.false_eq_true, if_false]
      · left
        simp [hpass]
    · left
      rfl
  · left
    simp

/-- **Only a pass arms a wait.** A displacement report that sets the flag passes the
destination, whose waiting period is positive, and the wait ends that period after the
follower's clock. -/
theorem updateSegment_arms {f : RouteFollower} {src dst : Vec} (hw : f.waiting = false)
    (h : (f.updateSegment src dst).waiting = true) :
    ∃ i s, f.dest = some i ∧ f.destination = some s ∧ passes s ⟨src, dst⟩ = true ∧
      0.0 < s.waitingPeriod ∧ (f.updateSegment src dst).waitUntil = f.now + s.waitingPeriod := by
  rcases updateSegment_cases f src dst with hsame | ⟨i, s, -, hd, hs, hpass, heq⟩
  · rw [hsame, hw] at h
    exact absurd h Bool.false_ne_true
  · have hc := completeSegment_sameWait f i
    rw [heq] at h ⊢
    dsimp only at h ⊢
    split at h
    · rename_i hpos
      refine ⟨i, s, hd, hs, hpass, hpos, ?_⟩
      rw [if_pos hpos]
      rw [hc.now]
    · rw [hc.waiting, hw] at h
      exact absurd h Bool.false_ne_true

/-- Visiting the waypoints behind a point keeps the clock and the wait. -/
theorem foldl_visit_sameWait (l : List (Stop × Nat)) (a : Float) :
    ∀ g : RouteFollower,
      SameWait g (l.foldl (fun g x => if x.1.along < a then g.visit x.2 else g) g) := by
  induction l with
  | nil => exact SameWait.refl
  | cons x l ih =>
    intro g
    rw [List.foldl_cons]
    split
    · exact (visit_sameWait g x.2).trans (ih _)
    · exact ih g

/-- An assignment sets the clock and ends any wait. -/
theorem assign_wait (f : RouteFollower) (r : Option Route) (pos : Vec) (now : Float)
    (env : Option Index) (strict : Bool) :
    (f.assign r pos now env strict).1.now = now ∧
      (f.assign r pos now env strict).1.waiting = false := by
  unfold assign
  cases r with
  | none => exact ⟨rfl, rfl⟩
  | some route =>
    dsimp only
    split
    · exact ⟨rfl, rfl⟩
    · split <;> exact ⟨(foldl_visit_sameWait _ _ _).now, (foldl_visit_sameWait _ _ _).waiting⟩

/-- The time a call sets the follower's clock to: that of an assignment or a tick; none for a
displacement report. -/
def Call.clock? : Call → Option Float
  | .assign _ _ now _ _ => some now
  | .step _ inp => some inp.now
  | .updateSegment _ _ => none

/-- The time of the latest assignment or tick among `calls`, or `t` when there is none. -/
def latestClock (t : Float) (calls : List Call) : Float :=
  calls.foldl (fun t c => c.clock?.getD t) t

theorem updateSegment_now (f : RouteFollower) (src dst : Vec) :
    (f.updateSegment src dst).now = f.now := by
  rcases updateSegment_cases f src dst with hsame | ⟨i, s, -, -, -, -, heq⟩
  · rw [hsame]
  · rw [heq]
    dsimp only
    split <;> exact (completeSegment_sameWait f i).now

theorem Call.apply_now (c : Call) (f : RouteFollower) : (c.apply f).now = c.clock?.getD f.now := by
  cases c with
  | assign r pos now env strict => exact (assign_wait f r pos now env strict).1
  | step env inp => exact (step_wait f env inp).1
  | updateSegment src dst => exact updateSegment_now f src dst

/-- **The clock is the time of the latest tick or assignment.** -/
theorem run_now (f : RouteFollower) (calls : List Call) :
    (f.run calls).now = latestClock f.now calls := by
  induction calls generalizing f with
  | nil => rfl
  | cons c calls ih =>
    show (run (c.apply f) calls).now = latestClock (c.clock?.getD f.now) calls
    rw [ih, Call.apply_now]

/-- **Only a pass arms a wait**, whatever the call: assignments end waits and ticks never start
one. -/
theorem Call.arms {c : Call} {f : RouteFollower} (hw : f.waiting = false)
    (h : (c.apply f).waiting = true) :
    ∃ src dst i s, c = .updateSegment src dst ∧ f.dest = some i ∧ f.destination = some s ∧
      passes s ⟨src, dst⟩ = true ∧ 0.0 < s.waitingPeriod ∧
      (c.apply f).waitUntil = f.now + s.waitingPeriod := by
  cases c with
  | assign r pos now env strict =>
    rw [Call.apply, (assign_wait f r pos now env strict).2] at h
    exact absurd h Bool.false_ne_true
  | step env inp =>
    have hwas := (step_wait f env inp).2.2 h
    rw [hw] at hwas
    exact absurd hwas Bool.false_ne_true
  | updateSegment src dst =>
    obtain ⟨i, s, hd, hs, hpass, hpos, hend⟩ := updateSegment_arms hw h
    exact ⟨src, dst, i, s, rfl, hd, hs, hpass, hpos, hend⟩

/-! ## The wait -/

/-- **A wait holds the follower until its end.** While a wait runs, displacement reports change
nothing, and a tick before the end, or any tick of a finished follower, returns zero and only sets
the clock. On a well-formed follower with a destination, the first tick not before the end clears
the flag and, before orienting afresh, marks visited exactly the consecutive waypoints from the
destination on that lie behind the pedestrian's projection onto the route. Only a displacement
report that passes the destination, whose waiting period is positive, sets the flag, and the wait
then ends that period after the time of the latest tick or assignment. -/
theorem waiting_holds_until_deadline :
    (∀ (f : RouteFollower), f.waiting = true → ∀ (env : Option Index) (inp : Input),
      (∀ src dst, f.updateSegment src dst = f) ∧
      (inp.now < f.waitUntil ∨ f.finished = true →
        f.step env inp = (.ok Vec.zero, { f with now := inp.now })) ∧
      (f.Progress → ¬ inp.now < f.waitUntil → ∀ i, f.dest = some i →
        ∃ (route : Route) (j : Nat) (g : RouteFollower), f.route = some route ∧
          BehindRun f.stops (route.project inp.position) i j ∧
          g.waiting = false ∧ g.needsOrientation = true ∧
          g.visited = f.visited ++ List.range' i (j - i) ∧
          g.dest = (if j < f.stops.length then some j else none) ∧
          f.step env inp = (if j < f.stops.length then g.advance env inp else (.ok Vec.zero, g)) ∧
          (f.step env inp).2.waiting = false)) ∧
    (∀ (f : RouteFollower) (calls : List Call) (c : Call),
      (f.run calls).waiting = false → (c.apply (f.run calls)).waiting = true →
      ∃ src dst i s, c = .updateSegment src dst ∧ (f.run calls).dest = some i ∧
        (f.run calls).destination = some s ∧ passes s ⟨src, dst⟩ = true ∧
        0.0 < s.waitingPeriod ∧
        (c.apply (f.run calls)).waitUntil = latestClock f.now calls + s.waitingPeriod) := by
  refine ⟨fun f hw env inp => ⟨updateSegment_of_waiting hw, ?held, ?ends⟩, ?armed⟩
  case held =>
    rintro (hlt | hfin)
    · exact step_of_waiting_before hw hlt env
    · exact step_of_finished hfin env inp
  case ends =>
    intro hp hge i hd
    exact step_ends_wait hp hw hge hd env
  case armed =>
    intro f calls c hw h
    obtain ⟨src, dst, i, s, hc, hd, hs, hpass, hpos, hend⟩ := Call.arms hw h
    exact ⟨src, dst, i, s, hc, hd, hs, hpass, hpos, by rw [hend, run_now]⟩

/-- Two waypoints up the second axis: one a metre from the origin with a wait of three seconds,
and one nine metres beyond it. -/
def waitThenWalk : Route :=
  ⟨1, [{ (default : Stop) with id := 1, position := ⟨0.0, 1.0⟩, waitingPeriod := 3.0, along := 0.0 },
    { (default : Stop) with id := 2, position := ⟨0.0, 10.0⟩, along := 9.0 }], false⟩

/-- Assigned at the origin and stepping onto the first waypoint of `waitThenWalk`, a follower
arms a wait that ends at three seconds, and the tick at three seconds ends it with the second
waypoint as the destination. -/
theorem waiting_holds_until_deadline_at_first_stop :
    let f₀ := (init 1 default).run [.assign (some waitThenWalk) ⟨0.0, 0.0⟩ 0.0 none false]
    let c : Call := .updateSegment ⟨0.0, 0.0⟩ ⟨0.0, 1.0⟩
    let f := c.apply f₀
    let inp : Input := ⟨3.0, ⟨0.0, 1.0⟩, ⟨0.0, 0.0⟩, 1.0⟩
    f₀.waiting = false ∧ f.waiting = true ∧ f.Progress ∧ ¬ inp.now < f.waitUntil ∧
      f.dest = some 1 ∧ (∃ s : Stop, f₀.destination = some s ∧ f.waitUntil = 0.0 + s.waitingPeriod) ∧
      (f.step none inp).2.waiting = false := by
  intro f₀ c f inp
  have hadm : ∀ d ∈ [Call.assign (some waitThenWalk) ⟨0.0, 0.0⟩ 0.0 none false], d.Admissible := by
    simp only [List.mem_singleton, forall_eq, Call.Admissible, Option.mem_def, Option.some.injEq,
      forall_eq', Route.Ascending]
    decide
  have hp : f.Progress :=
    @Call.apply_progress c trivial f₀ (run_progress _ hadm (init_progress 1 default))
  have hbefore : f₀.waiting = false := by decide +kernel
  have hw : f.waiting = true := by decide +kernel
  have hge : ¬ inp.now < f.waitUntil := by decide +kernel
  have hd : f.dest = some 1 := by decide +kernel
  obtain ⟨-, -, -, s, -, -, hs, -, -, hend⟩ :=
    waiting_holds_until_deadline.2 (init 1 default) _ c hbefore hw
  obtain ⟨-, -, -, -, -, -, -, -, -, -, hcleared⟩ :=
    (waiting_holds_until_deadline.1 f hw none inp).2.2 hp hge 1 hd
  exact ⟨hbefore, hw, hp, hge, hd, ⟨s, hs, hend⟩, hcleared⟩

/-- One waypoint at the origin with a wait of five seconds. -/
def waitAtEnd : Route :=
  ⟨1, [{ (default : Stop) with id := 1, position := ⟨0.0, 0.0⟩, waitingPeriod := 5.0, along := 0.0 }],
    false⟩

/-- **A wait armed at the last waypoint is never cleared.** Stepping onto the only waypoint of
`waitAtEnd` finishes the route and arms a wait until five seconds; the tick at ten seconds, past
its end, leaves the flag set, since a finished follower ignores ticks. -/
theorem finished_wait_stays_armed :
    let f := (init 1 default).run
      [.assign (some waitAtEnd) ⟨0.0, -1.0⟩ 0.0 none false, .updateSegment ⟨0.0, -1.0⟩ ⟨0.0, 0.0⟩]
    f.waiting = true ∧ f.finished = true ∧ ¬ (10.0 : Float) < f.waitUntil ∧
      (f.step none ⟨10.0, ⟨0.0, 0.0⟩, ⟨0.0, 0.0⟩, 1.0⟩).2.waiting = true := by
  decide +kernel

end RouteFollower

end CrowdSim
