import Mathlib
import CrowdSim.Proofs.WaitingPeriod

/-!
# Assigning a route again

Assigning a route to a follower keeps its pedestrian and tuning and sets everything else anew, but
three values guarded by flags are left as they were: the end of a wait that is not running, an
average not yet taken, and the orientation request of a follower without a route. This module
shows that those values are never read while their flags hide them, so a follower given a route
again behaves from then on exactly like one given that route straight after creation:

* `withGuarded` and its frame lemmas (`orientTo_withGuarded`, `checkCourse_withGuarded`,
  `rederive_withGuarded`, ...): the parts of a tick do not look at the guarded values;
* `Hides`: two followers alike up to hidden values, kept by a tick (`Hides.step`, whose answers
  agree), by a displacement report (`Hides.updateSegment`) and so by every run (`Hides.run`);
* `assign_hides`: two followers with one pedestrian and one tuning are alike after one
  assignment, whatever they did before;
* `reassignment_forgets_history`: the answers of every later tick and every accessor agree.

The hidden values themselves stay stale (`reassignment_keeps_stale_values`): the raw average in
particular is the one taken before the assignment, although the follower reports none.
-/

namespace CrowdSim

namespace RouteFollower

/-! ## Guarded fields -/

/-- `f` with the three flags of `k` and the values they guard: whether a wait runs and its end,
whether an average is taken and the average, whether a route is assigned and the orientation
request. -/
def withGuarded (f k : RouteFollower) : RouteFollower :=
  { f with
    waiting := k.waiting
    waitUntil := k.waitUntil
    hasAverage := k.hasAverage
    average := k.average
    inert := k.inert
    needsOrientation := k.needsOrientation }

@[simp] theorem withGuarded_self (f : RouteFollower) : f.withGuarded f = f := rfl

@[simp] theorem stops_withGuarded (f k : RouteFollower) : (f.withGuarded k).stops = f.stops := rfl

@[simp] theorem dest_withGuarded (f k : RouteFollower) : (f.withGuarded k).dest = f.dest := rfl

theorem destination_withGuarded {f k : RouteFollower} (hk : k.inert = f.inert) :
    (f.withGuarded k).destination = f.destination := by
  simp only [destination, withGuarded, hk]
  rfl

theorem visit_withGuarded (f k : RouteFollower) (i : Nat) :
    (f.withGuarded k).visit i = (f.visit i).withGuarded k := by
  unfold visit withGuarded
  dsimp only
  split_ifs <;> rfl

theorem completeSegment_withGuarded (f k : RouteFollower) (i : Nat) :
    (f.withGuarded k).completeSegment i = (f.completeSegment i).withGuarded k := by
  unfold completeSegment
  rw [stops_withGuarded]
  split
  · rfl
  · rw [visit_withGuarded]
    rfl

theorem skipBehind_withGuarded (along : Float) (fuel : Nat) (f k : RouteFollower) :
    skipBehind along fuel (f.withGuarded k) = (skipBehind along fuel f).withGuarded k := by
  induction fuel generalizing f with
  | zero => rfl
  | succ fuel ih =>
    simp only [skipBehind, dest_withGuarded, stops_withGuarded]
    cases f.dest with
    | none => rfl
    | some i =>
      dsimp only
      cases f.stops[i]? with
      | none => rfl
      | some s =>
        dsimp only
        split_ifs
        · rw [completeSegment_withGuarded, ← ih]
          rfl
        · rfl

theorem except_ok_bind {ε α β : Type} (a : α) (k : α → Except ε β) : (Except.ok a >>= k) = k a :=
  rfl

theorem orientTo_withGuarded (f k : RouteFollower) (s : Stop) (visible : Vec → Bool) (pos : Vec)
    (now : Float) :
    (f.withGuarded k).orientTo s visible pos now =
      (f.orientTo s visible pos now).map
        fun g => g.withGuarded { k with needsOrientation := g.needsOrientation } := by
  unfold orientTo withGuarded
  dsimp only
  -- split as the orientation does: on the reused target, the fresh one and the fallback
  split
  · rename_i p hr
    simp only [pure_bind, hr]
    rfl
  · rename_i hr
    simp only [hr]
    generalize freshTarget s visible pos (s.width / Elementary.maxOf f.tuning.samplingDivisor 1.0) = r
    cases r with
    | error e => rfl
    | ok found =>
      simp only [except_ok_bind]
      cases found with
      | some p => rfl
      | none =>
        cases f.lastGood with
        | none => rfl
        | some g => dsimp only; split_ifs <;> rfl

theorem checkCourse_withGuarded (f k : RouteFollower) (inp : Input) :
    (f.withGuarded k).checkCourse inp = (f.checkCourse inp).withGuarded k := by
  unfold checkCourse
  rw [show (f.withGuarded k).aim = f.aim from rfl]
  cases f.aim with
  | none => rfl
  | some a =>
    dsimp only
    rw [show (f.withGuarded k).lastDeviationCheck = f.lastDeviationCheck from rfl,
      show (f.withGuarded k).tuning = f.tuning from rfl,
      show (f.withGuarded k).direction = f.direction from rfl]
    split_ifs <;> rfl

theorem rederive_withGuarded (f k : RouteFollower) (pos : Vec) :
    (f.withGuarded k).rederive pos =
      (f.rederive pos).withGuarded { k with needsOrientation := true } := by
  unfold rederive
  dsimp only
  rw [skipBehind_withGuarded]
  rfl

theorem foldl_visit_withGuarded (l : List (Stop × Nat)) (a : Float) (f k : RouteFollower) :
    l.foldl (fun g x => if x.1.along < a then g.visit x.2 else g) (f.withGuarded k) =
      (l.foldl (fun g x => if x.1.along < a then g.visit x.2 else g) f).withGuarded k := by
  induction l generalizing f with
  | nil => rfl
  | cons x l ih =>
    rw [List.foldl_cons, List.foldl_cons]
    by_cases hx : x.1.along < a
    · rw [if_pos hx, if_pos hx, visit_withGuarded, ih]
    · rw [if_neg hx, if_neg hx, ih]

/-- A tick of a follower that is on its way, not waiting, is the part after any waiting. -/
theorem step_of_moving {f : RouteFollower} (hfin : f.finished = false) (hw : f.waiting = false)
    (env : Option Index) (inp : Input) : f.step env inp = { f with now := inp.now }.advance env inp := by
  have hfin' : ¬ ({ f with now := inp.now } : RouteFollower).finished = true := by
    rw [Bool.not_eq_true]
    exact hfin
  unfold step
  dsimp only
  rw [if_neg hfin', if_neg (show ¬ f.waiting = true by rw [hw]; exact Bool.false_ne_true)]

/-- An assignment reads of the follower only its id, its tuning and its guarded fields. -/
theorem assign_eq_init (f : RouteFollower) (r : Option Route) (pos : Vec) (now : Float)
    (env : Option Index) (strict : Bool) :
    f.assign r pos now env strict =
      ((init f.pedestrian f.tuning).withGuarded f).assign r pos now env strict :=
  rfl

theorem foldl_visit_pedestrian (l : List (Stop × Nat)) (a : Float) (f : RouteFollower) :
    (l.foldl (fun g x => if x.1.along < a then g.visit x.2 else g) f).pedestrian = f.pedestrian := by
  induction l generalizing f with
  | nil => rfl
  | cons x l ih =>
    rw [List.foldl_cons, ih]
    split
    · unfold visit
      split <;> rfl
    · rfl

/-! ## Followers alike up to hidden values -/

/-- `g` is `f` up to values that flags hide: the two agree in every field and every flag but the
end of a wait that is not running, an average not yet taken, and the orientation request of a
follower without a route. -/
structure Hides (f g : RouteFollower) : Prop where
  eq : g = f.withGuarded g
  waiting : g.waiting = f.waiting
  hasAverage : g.hasAverage = f.hasAverage
  inert : g.inert = f.inert
  waitUntil : f.waiting = true → g.waitUntil = f.waitUntil
  average : f.hasAverage = true → g.average = f.average
  needsOrientation : f.inert = false → g.needsOrientation = f.needsOrientation

/-- Two tick results that agree: the same direction or fault, and followers alike. -/
structure Agree {α : Type} (a b : α × RouteFollower) : Prop where
  answer : b.1 = a.1
  hides : Hides a.2 b.2

namespace Hides

variable {f g : RouteFollower}

theorem refl (f : RouteFollower) : Hides f f :=
  ⟨rfl, rfl, rfl, rfl, fun _ => rfl, fun _ => rfl, fun _ => rfl⟩

/-- Whatever reads no guarded field reads the same of both. -/
theorem read (h : Hides f g) {α : Type} (p : RouteFollower → α)
    (hp : ∀ x k, p (x.withGuarded k) = p x) : p g = p f := by
  rw [h.eq, hp]

theorem destination_eq (h : Hides f g) : g.destination = f.destination := by
  rw [h.eq]
  exact destination_withGuarded h.inert

theorem finished_eq (h : Hides f g) : g.finished = f.finished := by
  have hd : g.dest = f.dest := h.read (·.dest) fun _ _ => rfl
  simp only [finished, h.inert, hd]

/-- Alike followers are one follower with two sets of guarded values. -/
theorem cases (h : Hides f g) : ∃ k, g = f.withGuarded k ∧ Hides f (f.withGuarded k) := by
  refine ⟨g, h.eq, ?_⟩
  rw [← h.eq]
  exact h

/-- A follower that keeps the guarded fields of `f` is hidden by the values of `g` as `f` is. -/
theorem keep (h : Hides f g) {x : RouteFollower} (hx : x = x.withGuarded f) :
    Hides x (x.withGuarded g) := by
  rw [hx]
  exact ⟨rfl, h.waiting, h.hasAverage, h.inert, h.waitUntil, h.average, h.needsOrientation⟩

/-- A map that neither reads nor writes a guarded field keeps followers alike. -/
theorem map (h : Hides f g) {F : RouteFollower → RouteFollower}
    (hF : ∀ x k, F (x.withGuarded k) = (F x).withGuarded k) : Hides (F f) (F g) := by
  rw [(congrArg F h.eq).trans (hF f g)]
  exact h.keep (hF f f)

theorem reorient (h : Hides f g) (b : Bool) :
    Hides { f with needsOrientation := b } { g with needsOrientation := b } :=
  ⟨congrArg (fun x => { x with needsOrientation := b }) h.eq, h.waiting, h.hasAverage, h.inert,
    h.waitUntil, h.average, fun _ => rfl⟩

/-- A map that writes the orientation request, and reads and writes no other guarded field,
keeps followers alike. -/
theorem mapReorienting (h : Hides f g) {F : RouteFollower → RouteFollower}
    (hF : ∀ x k, F (x.withGuarded k) =
      (F x).withGuarded { k with needsOrientation := (F x).needsOrientation }) :
    Hides (F f) (F g) := by
  rw [(congrArg F h.eq).trans (hF f g)]
  exact (h.reorient _).keep (hF f f)

theorem setNow (h : Hides f g) (t : Float) : Hides { f with now := t } { g with now := t } :=
  h.map (F := fun x => { x with now := t }) fun _ _ => rfl

/-- Ending a wait at time `t` keeps followers alike. -/
theorem wake (h : Hides f g) (t : Float) :
    Hides { f with now := t, waiting := false } { g with now := t, waiting := false } :=
  ⟨congrArg (fun x => { x with now := t, waiting := false }) h.eq, rfl, h.hasAverage, h.inert,
    fun hw => absurd hw Bool.false_ne_true, h.average, h.needsOrientation⟩

/-- Arming a wait of `w` from each one's clock keeps followers alike. -/
theorem arm (h : Hides f g) (w : Float) :
    Hides { f with waiting := true, waitUntil := f.now + w }
      { g with waiting := true, waitUntil := g.now + w } := by
  obtain ⟨k, rfl, h⟩ := h.cases
  exact ⟨rfl, rfl, h.hasAverage, h.inert, fun _ => rfl, h.average, h.needsOrientation⟩

theorem trackProgress (h : Hides f g) (inp : Input) :
    Hides (f.trackProgress inp) (g.trackProgress inp) := by
  obtain ⟨k, rfl, h⟩ := h.cases
  unfold RouteFollower.trackProgress
  dsimp only
  rw [destination_withGuarded (k := k) h.inert, show (f.withGuarded k).startTime = f.startTime from rfl]
  split_ifs
  · exact h
  · exact ⟨rfl, h.waiting, rfl, h.inert, h.waitUntil, fun _ => rfl, h.needsOrientation⟩

/-- The slow-progress check reads the average only when one is taken. -/
theorem slow_eq (h : Hides f g) (inp : Input) :
    (g.hasAverage && inp.now - g.startTime ≥ g.tuning.slowProgressDelay &&
        inp.now - g.lastOrientationTime ≥ g.tuning.orientationInterval &&
        g.average < g.tuning.slowProgressFactor * inp.normalSpeed) =
      (f.hasAverage && inp.now - f.startTime ≥ f.tuning.slowProgressDelay &&
        inp.now - f.lastOrientationTime ≥ f.tuning.orientationInterval &&
        f.average < f.tuning.slowProgressFactor * inp.normalSpeed) := by
  have hs : g.startTime = f.startTime := h.read (·.startTime) fun _ _ => rfl
  have ht : g.tuning = f.tuning := h.read (·.tuning) fun _ _ => rfl
  have ho : g.lastOrientationTime = f.lastOrientationTime :=
    h.read (·.lastOrientationTime) fun _ _ => rfl
  rw [h.hasAverage, hs, ht, ho]
  cases hA : f.hasAverage
  · rfl
  · rw [h.average hA]

theorem reorientIf (h : Hides f g) (b : Bool) :
    Hides (if b = true then { f with needsOrientation := true } else f)
      (if b = true then { g with needsOrientation := true } else g) := by
  cases b
  · exact h
  · exact h.reorient true

/-- Orienting if asked to and checking the course keep followers on a route alike. -/
theorem orientAndCheck (h : Hides f g) (hi : f.inert = false) (env : Option Index) (inp : Input) :
    Agree
      (match (if (f.needsOrientation || f.courseDeviation || f.passed) = true then
          f.orient env inp.position inp.now else .ok f) with
        | .error e => ((.error e : Except SampleError Vec), f)
        | .ok y => (.ok (y.checkCourse inp).direction, y.checkCourse inp))
      (match (if (g.needsOrientation || g.courseDeviation || g.passed) = true then
          g.orient env inp.position inp.now else .ok g) with
        | .error e => ((.error e : Except SampleError Vec), g)
        | .ok y => (.ok (y.checkCourse inp).direction, y.checkCourse inp)) := by
  -- checking the course keeps any two alike followers alike
  have hcheck : ∀ {x y : RouteFollower}, Hides x y →
      Agree ((.ok (x.checkCourse inp).direction : Except SampleError Vec), x.checkCourse inp)
        (.ok (y.checkCourse inp).direction, y.checkCourse inp) := fun hxy =>
    have hc := hxy.map (F := (·.checkCourse inp)) fun x k => checkCourse_withGuarded x k inp
    ⟨congrArg Except.ok (hc.read (·.direction) fun _ _ => rfl), hc⟩
  -- a follower on a route shows its orientation request
  have hc : g.courseDeviation = f.courseDeviation := h.read (·.courseDeviation) fun _ _ => rfl
  have hp : g.passed = f.passed := h.read (·.passed) fun _ _ => rfl
  rw [h.needsOrientation hi, hc, hp]
  cases (f.needsOrientation || f.courseDeviation || f.passed)
  · exact hcheck h
  · rw [if_pos rfl, if_pos rfl]
    unfold RouteFollower.orient
    rw [h.destination_eq]
    cases f.destination with
    | none => exact hcheck h
    | some s =>
      dsimp only
      rw [(congrArg (fun x => x.orientTo s (sightFrom env inp.position) inp.position inp.now)
        h.eq).trans (orientTo_withGuarded f g _ _ _ _)]
      cases hx : f.orientTo s (sightFrom env inp.position) inp.position inp.now with
      | error e => exact ⟨rfl, h⟩
      | ok x =>
        -- the orientation keeps the guarded fields but the request
        have hkeep : x = x.withGuarded { f with needsOrientation := x.needsOrientation } := by
          have e := orientTo_withGuarded f f s (sightFrom env inp.position) inp.position inp.now
          rw [withGuarded_self, hx] at e
          exact Except.ok.inj e
        exact hcheck ((h.reorient x.needsOrientation).keep hkeep)

theorem advance (h : Hides f g) (hi : f.inert = false) (env : Option Index) (inp : Input) :
    Agree (f.advance env inp) (g.advance env inp) := by
  have h₁ := h.trackProgress inp
  have hi₁ : (f.trackProgress inp).inert = false := (trackProgress_same f inp).inert.trans hi
  unfold RouteFollower.advance
  dsimp only
  rw [h₁.slow_eq inp]
  refine (h₁.reorientIf _).orientAndCheck ?_ env inp
  split <;> exact hi₁

/-- **A tick keeps alike followers alike** and gives both the same answer. -/
theorem step (h : Hides f g) (env : Option Index) (inp : Input) :
    Agree (f.step env inp) (g.step env inp) := by
  have hnow := h.setNow inp.now
  cases hf : f.finished
  · have hi : f.inert = false := by
      simp only [finished, Bool.or_eq_false_iff] at hf
      exact hf.1
    have hg : g.finished = false := h.finished_eq.trans hf
    cases hw : f.waiting
    · rw [step_of_moving hf hw, step_of_moving hg (h.waiting.trans hw)]
      exact hnow.advance hi env inp
    · have hgw : g.waiting = true := h.waiting.trans hw
      have hu : g.waitUntil = f.waitUntil := h.waitUntil hw
      by_cases hlt : inp.now < f.waitUntil
      · rw [step_of_waiting_before hw hlt, step_of_waiting_before hgw (hu ▸ hlt)]
        exact ⟨rfl, hnow⟩
      · rw [step_of_waiting_after hf hw hlt, step_of_waiting_after hg hgw (hu ▸ hlt)]
        -- after the wait both mark the same waypoints and ask for an orientation
        have h₃ : Hides ({ f with now := inp.now, waiting := false }.rederive inp.position)
            ({ g with now := inp.now, waiting := false }.rederive inp.position) :=
          (h.wake inp.now).mapReorienting (F := (·.rederive inp.position))
            fun x k => rederive_withGuarded x k inp.position
        have hi₃ : ({ f with now := inp.now, waiting := false }.rederive inp.position).inert = false :=
          (congrArg RouteFollower.inert (rederive_withGuarded { f with now := inp.now, waiting := false }
            { f with now := inp.now, waiting := false } inp.position)).trans hi
        have hd₃ : ({ g with now := inp.now, waiting := false }.rederive inp.position).dest =
            ({ f with now := inp.now, waiting := false }.rederive inp.position).dest :=
          h₃.read (·.dest) fun _ _ => rfl
        dsimp only
        rw [hd₃]
        split
        · exact ⟨rfl, h₃⟩
        · exact h₃.advance hi₃ env inp
  · rw [step_of_finished hf, step_of_finished (h.finished_eq.trans hf)]
    exact ⟨rfl, hnow⟩

/-- **A displacement report keeps alike followers alike.** -/
theorem updateSegment (h : Hides f g) (src dst : Vec) :
    Hides (f.updateSegment src dst) (g.updateSegment src dst) := by
  cases hw : f.waiting
  · have hgw : g.waiting = false := h.waiting.trans hw
    have hd : g.dest = f.dest := h.read (·.dest) fun _ _ => rfl
    unfold RouteFollower.updateSegment
    rw [if_neg (show ¬ f.waiting = true by rw [hw]; exact Bool.false_ne_true),
      if_neg (show ¬ g.waiting = true by rw [hgw]; exact Bool.false_ne_true), h.destination_eq, hd]
    cases f.dest with
    | none => exact h
    | some i =>
      cases f.destination with
      | none => exact h
      | some s =>
        dsimp only
        -- passing the destination completes the same leg on both
        have hc := (h.map (F := (·.completeSegment i)) fun x k => completeSegment_withGuarded x k i).map
          (F := fun x => { x with dest := x.nextUnvisited (i + 1), passed := true }) fun _ _ => rfl
        by_cases hp : passes s ⟨src, dst⟩ = true
        · have hnp : ¬ (!passes s ⟨src, dst⟩) = true := by simp [hp]
          rw [if_neg hnp, if_neg hnp]
          by_cases hwp : s.waitingPeriod > 0.0
          · rw [if_pos hwp, if_pos hwp]
            exact hc.arm s.waitingPeriod
          · rw [if_neg hwp, if_neg hwp]
            exact hc
        · have hnp : (!passes s ⟨src, dst⟩) = true := by simp [hp]
          rw [if_pos hnp, if_pos hnp]
          exact h
  · rw [updateSegment_of_waiting hw, updateSegment_of_waiting (h.waiting.trans hw)]
    exact h

/-- Marking the waypoints behind and choosing the destination, as an assignment does after its
resets, keep alike two followers that differ only in guarded fields and have no wait and no
average. -/
theorem placed {u v x y : RouteFollower} {l : List (Stop × Nat)} {a : Float}
    (hx : x = l.foldl (fun g x => if x.1.along < a then g.visit x.2 else g) u)
    (hy : y = l.foldl (fun g x => if x.1.along < a then g.visit x.2 else g) v)
    (huv : v = u.withGuarded v) (hw : u.waiting = false) (hw' : v.waiting = false)
    (ha : u.hasAverage = false) (ha' : v.hasAverage = false) (hi : v.inert = u.inert)
    (d : Option Nat) :
    Hides { x with dest := d, needsOrientation := d.isSome }
      { y with dest := d, needsOrientation := d.isSome } := by
  -- with no wait and no average, only the orientation request could tell them apart
  have h₀ : Hides { u with needsOrientation := d.isSome } { v with needsOrientation := d.isSome } :=
    ⟨congrArg (fun x => { x with needsOrientation := d.isSome }) huv, hw'.trans hw.symm,
      ha'.trans ha.symm, hi, fun h => absurd (hw.symm.trans h) Bool.false_ne_true,
      fun h => absurd (ha.symm.trans h) Bool.false_ne_true, fun _ => rfl⟩
  rw [hx, hy, huv, foldl_visit_withGuarded]
  exact h₀.keep (congrArg (fun x => { x with dest := d, needsOrientation := d.isSome })
    (foldl_visit_withGuarded l a u u))

end Hides

/-- **An assignment forgets the history**: two followers of one pedestrian with one tuning, in any
states, are assigned alike, with the same answer. -/
theorem assign_hides {f g : RouteFollower} (hp : g.pedestrian = f.pedestrian)
    (ht : g.tuning = f.tuning) (r : Option Route) (pos : Vec) (now : Float) (env : Option Index)
    (strict : Bool) :
    (g.assign r pos now env strict).2 = (f.assign r pos now env strict).2 ∧
      Hides (f.assign r pos now env strict).1 (g.assign r pos now env strict).1 := by
  rw [assign_eq_init f, assign_eq_init g, hp, ht]
  unfold assign
  cases r with
  | none => exact ⟨rfl, rfl, rfl, rfl, rfl, nofun, nofun, nofun⟩
  | some route =>
    dsimp only
    split
    · exact ⟨rfl, rfl, rfl, rfl, rfl, nofun, nofun, nofun⟩
    · -- both are placed on the route alike; the answers name the same pedestrian
      split <;> refine ⟨?_, Hides.placed (by rfl) (by rfl) (by rfl) (by rfl) (by rfl) (by rfl)
        (by rfl) (by rfl) _⟩
      · simp only [foldl_visit_pedestrian]
        rfl
      · rfl

/-- Every call keeps alike followers alike. -/
theorem Hides.apply {f g : RouteFollower} (h : Hides f g) (c : Call) : Hides (c.apply f) (c.apply g) := by
  cases c with
  | assign r pos now env strict =>
    exact (assign_hides (h.read (·.pedestrian) fun _ _ => rfl) (h.read (·.tuning) fun _ _ => rfl)
      r pos now env strict).2
  | step env inp => exact (h.step env inp).hides
  | updateSegment src dst => exact h.updateSegment src dst

theorem Hides.run {f g : RouteFollower} (h : Hides f g) (calls : List Call) :
    Hides (f.run calls) (g.run calls) := by
  induction calls generalizing f g with
  | nil => exact h
  | cons c calls ih => exact ih (h.apply c)

/-- **Alike followers answer every accessor alike**: the end of a wait, the average and the
orientation request where their flags show them. -/
theorem Hides.observe {f g : RouteFollower} (h : Hides f g) :
    g.destination = f.destination ∧ g.visitedIds = f.visitedIds ∧ g.finished = f.finished ∧
      (∀ t, g.isWaiting t = f.isWaiting t) ∧ g.lost = f.lost ∧ g.aim = f.aim ∧
      g.direction = f.direction ∧ g.courseDeviation = f.courseDeviation ∧
      g.averageVelocity? = f.averageVelocity? ∧
      (f.waiting = true → g.waitUntil = f.waitUntil) ∧
      (f.hasAverage = true → g.average = f.average) ∧
      (f.inert = false → g.needsOrientation = f.needsOrientation) := by
  refine ⟨h.destination_eq, h.read (·.visitedIds) fun _ _ => rfl, h.finished_eq, fun t => ?_,
    h.read (·.lost) fun _ _ => rfl, h.read (·.aim) fun _ _ => rfl,
    h.read (·.direction) fun _ _ => rfl, h.read (·.courseDeviation) fun _ _ => rfl, ?_,
    h.waitUntil, h.average, h.needsOrientation⟩
  · -- the end of a wait is shown only while the wait runs
    unfold isWaiting
    rw [h.waiting]
    cases hw : f.waiting
    · rfl
    · rw [h.waitUntil hw]
  · unfold averageVelocity?
    rw [h.hasAverage]
    cases ha : f.hasAverage
    · rfl
    · rw [h.average ha]

/-- **Reassignment forgets the history.** Two followers of one pedestrian with one tuning, in any
states, assigned the same route from the same place, time, walls and strictness, give the same
answer and then, under any later calls, the same tick answers and the same accessors: the
destination, the visited waypoints, whether finished, whether waiting at any time, lost, the
target, the held direction and the course deviation, and the average velocity if one is taken.
The end of a wait, the average and the orientation request agree where their flags show them. -/
theorem reassignment_forgets_history (f g : RouteFollower) (hp : g.pedestrian = f.pedestrian)
    (ht : g.tuning = f.tuning) (r : Option Route) (pos : Vec) (now : Float) (env : Option Index)
    (strict : Bool) :
    (g.assign r pos now env strict).2 = (f.assign r pos now env strict).2 ∧
      ∀ calls : List Call,
        let f' := (f.assign r pos now env strict).1.run calls
        let g' := (g.assign r pos now env strict).1.run calls
        (∀ env inp, (g'.step env inp).1 = (f'.step env inp).1) ∧
        g'.destination = f'.destination ∧ g'.visitedIds = f'.visitedIds ∧
        g'.finished = f'.finished ∧ (∀ t, g'.isWaiting t = f'.isWaiting t) ∧ g'.lost = f'.lost ∧
        g'.aim = f'.aim ∧ g'.direction = f'.direction ∧ g'.courseDeviation = f'.courseDeviation ∧
        g'.averageVelocity? = f'.averageVelocity? ∧
        (f'.waiting = true → g'.waitUntil = f'.waitUntil) ∧
        (f'.hasAverage = true → g'.average = f'.average) ∧
        (f'.inert = false → g'.needsOrientation = f'.needsOrientation) := by
  obtain ⟨hanswer, h⟩ := assign_hides hp ht r pos now env strict
  refine ⟨hanswer, fun calls => ?_⟩
  have hrun := h.run calls
  exact ⟨fun env inp => (hrun.step env inp).answer, hrun.observe⟩

attribute [ext] Tuning

/-- Two waypoints: ten metres up, then ten to the right. -/
def upAndRight : Route :=
  ⟨1, [{ (default : Stop) with id := 1, position := ⟨0.0, 10.0⟩, along := 0.0 },
    { (default : Stop) with id := 2, position := ⟨10.0, 10.0⟩, along := 10.0 }], false⟩

theorem reassignment_forgets_history_after_walking :
    let fresh := init 1 Tuning.default
    let walked := fresh.run
      [.assign (some upAndRight) ⟨0.0, 0.0⟩ 0.0 none false, .step none ⟨2.0, ⟨0.0, 2.0⟩, ⟨0.0, 0.0⟩, 1.0⟩]
    walked.pedestrian = fresh.pedestrian ∧ walked.tuning = fresh.tuning ∧
      ∀ calls env inp,
        (((walked.assign (some upAndRight) ⟨0.0, 0.0⟩ 2.0 none false).1.run calls).step env inp).1 =
          (((fresh.assign (some upAndRight) ⟨0.0, 0.0⟩ 2.0 none false).1.run calls).step env inp).1 := by
  intro fresh walked
  have hp : walked.pedestrian = fresh.pedestrian := by decide +kernel
  have ht : walked.tuning = fresh.tuning := by
    rw [Tuning.ext_iff]
    decide +kernel
  exact ⟨hp, ht, fun calls env inp =>
    ((reassignment_forgets_history fresh walked hp ht _ _ _ _ _).2 calls).1 env inp⟩

/-- **An assignment keeps stale values behind its flags.** After a tick has taken an average, a
new assignment still holds that average while reporting none; after a wait was armed, it still
holds the end of the wait; and assigning no route keeps a pending orientation request. A follower
assigned straight after creation holds zero, zero and no request instead. -/
theorem reassignment_keeps_stale_values :
    let fresh := init 1 Tuning.default
    let a := (fresh.run [.assign (some upAndRight) ⟨0.0, 0.0⟩ 0.0 none false,
      .step none ⟨2.0, ⟨0.0, 2.0⟩, ⟨0.0, 0.0⟩, 1.0⟩]).assign (some upAndRight) ⟨0.0, 0.0⟩ 2.0 none false
    let w := (fresh.run [.assign (some waitThenWalk) ⟨0.0, 0.0⟩ 0.0 none false,
      .updateSegment ⟨0.0, 0.0⟩ ⟨0.0, 1.0⟩]).assign (some waitThenWalk) ⟨0.0, 0.0⟩ 1.0 none false
    let n := (fresh.run [.assign (some upAndRight) ⟨0.0, 0.0⟩ 0.0 none false]).assign none
      ⟨0.0, 0.0⟩ 1.0 none false
    a.1.average = 1.0 ∧ a.1.averageVelocity? = none ∧
      (fresh.assign (some upAndRight) ⟨0.0, 0.0⟩ 2.0 none false).1.average = 0.0 ∧
      w.1.waitUntil = 3.0 ∧
      (fresh.assign (some waitThenWalk) ⟨0.0, 0.0⟩ 1.0 none false).1.waitUntil = 0.0 ∧
      n.1.needsOrientation = true ∧
      (fresh.assign none ⟨0.0, 0.0⟩ 1.0 none false).1.needsOrientation = false := by
  decide +kernel

end RouteFollower

end CrowdSim
