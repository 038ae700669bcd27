import Mathlib
import CrowdSim.Wayfinding.RouteFollower
import CrowdSim.Proofs.FloatOrder

/-!
# Progress along a route

A route follower keeps its progress in four places: the destination's index, the list of passed
waypoints, the set of passed waypoints, and whether it is inert. This module shows that these
always agree, whatever the calls and whatever the geometry answers: the passed waypoints are,
in order and once each, exactly those before the destination, and all of them once there is
none. It needs of a route only that the waypoints' distances along it never decrease
(`Route.Ascending`), so that the waypoints behind a point are a prefix of the route. A made route
has each distance the one before plus a leg (`Route.make_spec`); that the rounded sum is never
below the one before is a fact of double addition that this development takes as given, so it
is a hypothesis here. The distances need not increase strictly.

* `SameProgress`: ticks, orientation and course checks change no progress (`advance_same`);
* `Progress`: the invariant, with `Progress.finished_iff`: finished exactly when the route has no
  waypoints or all are visited;
* `Advances`: moving forward; passing the destination (`Progress.pass`), ticks
  (`step_advances`) and displacement reports (`updateSegment_advances`) move forward, and an
  assignment starts well-formed progress (`assign_progress`);
* `run_keeps_route_progress`: after any sequence of calls the invariant holds, and between
  assignments the visited list only grows and the destination only moves forward.
-/

namespace CrowdSim

/-- The waypoints' distances along the route never decrease. -/
def Route.Ascending (r : Route) : Prop := (r.stops.map (·.along)).IsChain (· ≤ ·)

namespace RouteFollower

/-! ## Steps that change no progress -/

/-- Two states agree on the route and on the progress along it. -/
structure SameProgress (f g : RouteFollower) : Prop where
  route : g.route = f.route
  inert : g.inert = f.inert
  dest : g.dest = f.dest
  visited : g.visited = f.visited
  visitedSet : g.visitedSet = f.visitedSet

theorem SameProgress.refl (f : RouteFollower) : SameProgress f f := ⟨rfl, rfl, rfl, rfl, rfl⟩

theorem SameProgress.trans {f g h : RouteFollower} (h₁ : SameProgress f g) (h₂ : SameProgress g h) :
    SameProgress f h :=
  ⟨h₂.route.trans h₁.route, h₂.inert.trans h₁.inert, h₂.dest.trans h₁.dest,
    h₂.visited.trans h₁.visited, h₂.visitedSet.trans h₁.visitedSet⟩

theorem trackProgress_same (f : RouteFollower) (inp : Input) :
    SameProgress f (f.trackProgress inp) := by
  unfold trackProgress
  dsimp only
  split_ifs
  · exact .refl f
  · exact ⟨rfl, rfl, rfl, rfl, rfl⟩

theorem checkCourse_same (f : RouteFollower) (inp : Input) :
    SameProgress f (f.checkCourse inp) := by
  unfold checkCourse
  split
  · dsimp only
    split_ifs <;> exact ⟨rfl, rfl, rfl, rfl, rfl⟩
  · exact .refl f

/-- A computation that ends well passed a value to the rest of it. -/
theorem except_bind_eq_ok {ε α β : Type} {x : Except ε α} {k : α → Except ε β} {b : β}
    (h : x >>= k = .ok b) : ∃ a, x = .ok a ∧ k a = .ok b := by
  cases x with
  | error e => cases h
  | ok a => exact ⟨a, rfl, h⟩

theorem orientTo_same {f g : RouteFollower} {s : Stop} {visible : Vec → Bool} {pos : Vec}
    {now : Float} (h : f.orientTo s visible pos now = .ok g) : SameProgress f g := by
  unfold orientTo at h
  dsimp only at h
  split at h
  · split at h <;> cases h <;> constructor <;> (dsimp only; split_ifs <;> rfl)
  · obtain ⟨found, -, hk⟩ := except_bind_eq_ok h
    split at hk <;> cases hk
    · exact ⟨rfl, rfl, rfl, rfl, rfl⟩
    · constructor <;> (dsimp only; split_ifs <;> rfl)

theorem orient_same {f g : RouteFollower} {env : Option Index} {pos : Vec} {now : Float}
    (h : f.orient env pos now = .ok g) : SameProgress f g := by
  unfold orient at h
  split at h
  · exact orientTo_same h
  · cases h
    exact .refl f

/-- Asking for a fresh orientation changes no progress. -/
theorem reorient_same (f : RouteFollower) (c : Bool) :
    SameProgress f (if c = true then { f with needsOrientation := true } else f) := by
  split
  · exact ⟨rfl, rfl, rfl, rfl, rfl⟩
  · exact .refl f

/-- Orienting if asked to and checking the course change no progress. -/
theorem orientAndCheck_same (f : RouteFollower) (c : Bool) (env : Option Index) (inp : Input) :
    SameProgress f
      (match (if c = true then f.orient env inp.position inp.now else .ok f) with
        | .error e => ((.error e : Except SampleError Vec), f)
        | .ok g => (.ok (g.checkCourse inp).direction, g.checkCourse inp)).2 := by
  split
  · exact .refl f
  · rename_i g hg
    refine SameProgress.trans ?_ (checkCourse_same g inp)
    split at hg
    · exact orient_same hg
    · cases hg
      exact .refl f

/-- The part of a tick after any waiting changes no progress. -/
theorem advance_same (f : RouteFollower) (env : Option Index) (inp : Input) :
    SameProgress f (f.advance env inp).2 := by
  unfold advance
  exact (trackProgress_same f inp).trans
    ((reorient_same _ _).trans (orientAndCheck_same _ _ env inp))

/-! ## The invariant -/

/-- The index of the destination; the number of waypoints when there is none. -/
def destIndex (f : RouteFollower) : Nat := f.dest.getD f.stops.length

/-- The passed waypoints are those below `k`: listed in order, and held by the set. -/
structure VisitedBelow (f : RouteFollower) (k : Nat) : Prop where
  visited_eq : f.visited = List.range k
  visitedSet_iff : ∀ j, f.visitedSet j = true ↔ j < k

/-- **Progress along the route.** The follower is inert exactly without waypoints, the
destination, if any, is a waypoint, and the passed waypoints are those before it. -/
structure Progress (f : RouteFollower) : Prop where
  inert_iff : f.inert = true ↔ f.stops = []
  dest_lt : ∀ k, f.dest = some k → k < f.stops.length
  visitedBelow : f.VisitedBelow f.destIndex

/-- The first index outside a visited prefix is not in the set. -/
theorem VisitedBelow.visitedSet_self {f : RouteFollower} {k : Nat} (h : f.VisitedBelow k) :
    f.visitedSet k = false := by
  rw [← Bool.not_eq_true, h.visitedSet_iff]
  exact Nat.lt_irrefl k

theorem VisitedBelow.of_same {f g : RouteFollower} {k : Nat} (h : f.VisitedBelow k)
    (hs : SameProgress f g) : g.VisitedBelow k :=
  ⟨hs.visited ▸ h.visited_eq, hs.visitedSet ▸ h.visitedSet_iff⟩

theorem SameProgress.stops {f g : RouteFollower} (h : SameProgress f g) : g.stops = f.stops := by
  simp [RouteFollower.stops, h.route]

theorem SameProgress.destIndex {f g : RouteFollower} (h : SameProgress f g) :
    g.destIndex = f.destIndex := by
  simp [RouteFollower.destIndex, h.dest, h.stops]

theorem SameProgress.progress {f g : RouteFollower} (h : SameProgress f g) (hp : f.Progress) :
    g.Progress where
  inert_iff := by rw [h.inert, h.stops]; exact hp.inert_iff
  dest_lt := by rw [h.dest, h.stops]; exact hp.dest_lt
  visitedBelow := h.destIndex ▸ hp.visitedBelow.of_same h

/-- An inert follower with nothing visited and no destination is well-formed. -/
theorem progress_of_inert {f : RouteFollower} (hinert : f.inert = true) (hstops : f.stops = [])
    (hdest : f.dest = none) (hvisited : f.visited = []) (hset : ∀ j, f.visitedSet j = false) :
    f.Progress where
  inert_iff := by simp [hinert, hstops]
  dest_lt := by simp [hdest]
  visitedBelow :=
    ⟨by simp [destIndex, hdest, hstops, hvisited], by simp [destIndex, hdest, hstops, hset]⟩

theorem init_progress (id : Int) (t : Tuning) : (init id t).Progress :=
  progress_of_inert rfl rfl rfl rfl fun _ => rfl

/-- The first waypoint at or after `k` outside a set that holds exactly those before `k`. -/
theorem VisitedBelow.nextUnvisited_eq {f : RouteFollower} {k : Nat} (h : f.VisitedBelow k)
    (hk : k ≤ f.stops.length) :
    f.nextUnvisited k = if k < f.stops.length then some k else none := by
  unfold nextUnvisited
  rw [List.range_eq_range', List.drop_range']
  split
  · obtain ⟨m, hm⟩ : ∃ m, f.stops.length - k = m + 1 := ⟨f.stops.length - k - 1, by omega⟩
    rw [hm, List.range'_succ]
    simp [h.visitedSet_self]
  · rw [show f.stops.length - k = 0 by omega]
    rfl

/-- Visiting the first waypoint outside the set extends the visited prefix by it. -/
theorem VisitedBelow.visit {f : RouteFollower} {k : Nat} (h : f.VisitedBelow k) :
    (f.visit k).VisitedBelow (k + 1) := by
  constructor
  · simp [RouteFollower.visit, h.visitedSet_self, h.visited_eq, List.range_succ]
  · intro j
    simp only [RouteFollower.visit, h.visitedSet_self, Bool.false_eq_true, if_false, Bool.or_eq_true,
      beq_iff_eq, h.visitedSet_iff]
    omega

@[simp] theorem visit_route (f : RouteFollower) (i : Nat) : (f.visit i).route = f.route := by
  unfold visit; split <;> rfl

@[simp] theorem visit_inert (f : RouteFollower) (i : Nat) : (f.visit i).inert = f.inert := by
  unfold visit; split <;> rfl

@[simp] theorem visit_stops (f : RouteFollower) (i : Nat) : (f.visit i).stops = f.stops := by
  simp [RouteFollower.stops]

/-- A follower whose destination is the waypoint `k`, or none after the last, with the waypoints
below `k` visited, is well-formed with destination index `k`. -/
theorem progress_of_visitedBelow {f : RouteFollower} {k : Nat}
    (hinert : f.inert = true ↔ f.stops = []) (hk : k ≤ f.stops.length)
    (hdest : f.dest = if k < f.stops.length then some k else none) (hbelow : f.VisitedBelow k) :
    f.Progress ∧ f.destIndex = k := by
  have hidx : f.destIndex = k := by
    unfold destIndex
    rw [hdest]
    split
    · rfl
    · simp only [Option.getD_none]
      omega
  refine ⟨⟨hinert, fun j hj => ?_, hidx ▸ hbelow⟩, hidx⟩
  rw [hdest] at hj
  split at hj <;> simp at hj
  omega

/-! ## Moving forward -/

/-- **Moving forward.** `g` is a well-formed state on the route of `f`, whose visited list extends
that of `f` and whose destination is no earlier. -/
structure Advances (f g : RouteFollower) : Prop where
  progress : g.Progress
  route : g.route = f.route
  visited : f.visited <+: g.visited
  destIndex_le : f.destIndex ≤ g.destIndex

theorem SameProgress.advances {f g : RouteFollower} (hp : f.Progress) (h : SameProgress f g) :
    Advances f g :=
  ⟨h.progress hp, h.route, h.visited ▸ List.prefix_refl _, h.destIndex ▸ Nat.le_refl _⟩

theorem Advances.refl {f : RouteFollower} (hp : f.Progress) : Advances f f :=
  (SameProgress.refl f).advances hp

theorem Advances.trans {f g h : RouteFollower} (h₁ : Advances f g) (h₂ : Advances g h) :
    Advances f h :=
  ⟨h₂.progress, h₂.route.trans h₁.route, h₁.visited.trans h₂.visited,
    Nat.le_trans h₁.destIndex_le h₂.destIndex_le⟩

/-- Completing the leg into a waypoint visits it and changes no other progress. -/
theorem completeSegment_same (f : RouteFollower) {i : Nat} (hi : i < f.stops.length) :
    SameProgress (f.visit i) (f.completeSegment i) := by
  unfold completeSegment
  split
  · rename_i hnone
    simp [List.getElem?_eq_getElem hi] at hnone
  · exact ⟨rfl, rfl, rfl, rfl, rfl⟩

/-- **Passing the destination** visits it and makes the next waypoint the destination, or finishes
the route after the last. -/
theorem Progress.pass {f : RouteFollower} {i : Nat} (hp : f.Progress) (hd : f.dest = some i) :
    let g := f.completeSegment i
    Advances f { g with dest := g.nextUnvisited (i + 1) } := by
  intro g
  have hi : i < f.stops.length := hp.dest_lt i hd
  have hdi : f.destIndex = i := by simp [destIndex, hd]
  have hsame : SameProgress (f.visit i) g := completeSegment_same f hi
  have hstops : g.stops = f.stops := by rw [hsame.stops, visit_stops]
  have hbelow : g.VisitedBelow (i + 1) := (hdi ▸ hp.visitedBelow).visit.of_same hsame
  have hinert : g.inert = true ↔ g.stops = [] := by
    rw [hsame.inert, visit_inert, hstops]
    exact hp.inert_iff
  -- the next destination is the waypoint after `i`, found past the visited prefix
  have hnext : ({ g with dest := g.nextUnvisited (i + 1) } : RouteFollower).dest =
      if i + 1 < g.stops.length then some (i + 1) else none :=
    hbelow.nextUnvisited_eq (hstops ▸ hi)
  obtain ⟨hprogress, hidx⟩ := @progress_of_visitedBelow { g with dest := g.nextUnvisited (i + 1) }
    (i + 1) hinert (hstops ▸ hi) hnext ⟨hbelow.visited_eq, hbelow.visitedSet_iff⟩
  refine ⟨hprogress, ?route, ?visited, ?forward⟩
  case route =>
    show g.route = f.route
    rw [hsame.route, visit_route]
  case visited =>
    show f.visited <+: g.visited
    rw [hbelow.visited_eq, hp.visitedBelow.visited_eq, hdi, List.range_succ]
    exact List.prefix_append _ _
  case forward =>
    rw [hidx, hdi]
    exact Nat.le_succ i

/-! ## Ticks and displacement reports -/

/-- Marking the waypoints behind a point moves forward, one pass per waypoint. -/
theorem skipBehind_advances (along : Float) :
    ∀ (fuel : Nat) (f : RouteFollower), f.Progress → Advances f (skipBehind along fuel f) := by
  intro fuel
  induction fuel with
  | zero => intro f hp; exact .refl hp
  | succ fuel ih =>
    intro f hp
    unfold skipBehind
    split
    · exact .refl hp
    · rename_i i hd
      split
      · split
        · have hpass := hp.pass hd
          exact hpass.trans (ih _ hpass.progress)
        · exact .refl hp
      · exact .refl hp

theorem rederive_advances {f : RouteFollower} (hp : f.Progress) (pos : Vec) :
    Advances f (f.rederive pos) := by
  unfold rederive
  have h := skipBehind_advances ((f.route.map fun r => r.project pos).getD 0.0) f.stops.length f hp
  exact h.trans (SameProgress.advances h.progress ⟨rfl, rfl, rfl, rfl, rfl⟩)

/-- **A tick moves forward**: it changes no progress, except that a wait that has run out marks
the waypoints left behind meanwhile. -/
theorem step_advances {f : RouteFollower} (hp : f.Progress) (env : Option Index) (inp : Input) :
    Advances f (f.step env inp).2 := by
  have hnow : Advances f { f with now := inp.now } :=
    SameProgress.advances hp ⟨rfl, rfl, rfl, rfl, rfl⟩
  -- the end of a wait: waiting cleared, then the waypoints left behind marked
  have hwake : Advances f { f with now := inp.now, waiting := false } :=
    SameProgress.advances hp ⟨rfl, rfl, rfl, rfl, rfl⟩
  have hre := hwake.trans (rederive_advances hwake.progress inp.position)
  unfold step
  dsimp only
  split_ifs
  · exact hnow
  · exact hnow
  · exact hre
  · exact hre.trans ((advance_same _ env inp).advances hre.progress)
  · exact hnow.trans ((advance_same _ env inp).advances hnow.progress)

/-- **Reporting a displacement moves forward**: it passes the destination or changes no
progress. -/
theorem updateSegment_advances {f : RouteFollower} (hp : f.Progress) (src dst : Vec) :
    Advances f (f.updateSegment src dst) := by
  unfold updateSegment
  split
  · exact .refl hp
  · split
    · rename_i i s hd _
      split
      · exact .refl hp
      · have hpass := hp.pass hd
        refine hpass.trans (SameProgress.advances hpass.progress ?_)
        dsimp only
        split_ifs <;> exact ⟨rfl, rfl, rfl, rfl, rfl⟩
    · exact .refl hp

/-! ## Assignment -/

/-- Along ascending waypoints, those behind a point are the ones before the first that is not. -/
theorem along_lt_iff_lt_findIdx {l : List Stop} (hl : (l.map (·.along)).IsChain (· ≤ ·))
    (a : Float) {i : Nat} (hi : i < l.length) :
    l[i].along < a ↔ i < l.findIdx fun s => !(s.along < a) := by
  have hpair : ∀ j k (hjk : j < k) (hk : k < l.length),
      l[j].along ≤ l[k].along := by
    have hp : (l.map (·.along)).Pairwise (· ≤ ·) :=
      (@List.isChain_iff_pairwise Float (· ≤ ·) _ ⟨float_le_trans⟩).mp hl
    have h := List.pairwise_iff_getElem.mp hp
    intro j k hjk hk
    have hjk' := h j k (by rw [List.length_map]; omega) (by rw [List.length_map]; exact hk) hjk
    rwa [List.getElem_map, List.getElem_map] at hjk'
  constructor
  · intro h
    by_contra hge
    have hm : l.findIdx (fun s => !(s.along < a)) < l.length := by omega
    have hstop : ¬ l[l.findIdx (fun s => !(s.along < a))].along < a := by
      have hfound := @List.findIdx_getElem _ _ l hm
      rwa [Bool.not_eq_true', decide_eq_false_iff_not] at hfound
    rcases Nat.lt_or_ge (l.findIdx fun s => !(s.along < a)) i with hlt | hge'
    · exact hstop (float_lt_of_le_of_lt (hpair _ _ hlt hi) h)
    · have heq : l.findIdx (fun s => !(s.along < a)) = i := by omega
      simp only [heq] at hstop
      exact hstop h
  · intro h
    simpa using List.not_of_lt_findIdx h

/-- Visiting, in order, the indices below `n` that are below `m` visits those below both. -/
theorem foldl_visit_range (m : Nat) (g : RouteFollower) (hg : g.VisitedBelow 0) :
    ∀ n, let h := (List.range n).foldl (fun g i => if i < m then g.visit i else g) g
      h.VisitedBelow (min n m) ∧ h.route = g.route ∧ h.inert = g.inert := by
  intro n
  induction n with
  | zero => exact ⟨by simpa using hg, rfl, rfl⟩
  | succ n ih =>
    obtain ⟨hbelow, hroute, hinert⟩ := ih
    simp only [List.range_succ, List.foldl_append, List.foldl_cons, List.foldl_nil]
    split
    · rw [show min n m = n by omega] at hbelow
      rw [show min (n + 1) m = n + 1 by omega]
      exact ⟨hbelow.visit, by rw [visit_route, hroute], by rw [visit_inert, hinert]⟩
    · rw [show min (n + 1) m = min n m by omega]
      exact ⟨hbelow, hroute, hinert⟩

/-- Along ascending waypoints, visiting each one behind `a` visits those before the first that is
not behind it. -/
theorem foldl_visit_behind {l : List Stop} (hl : (l.map (·.along)).IsChain (· ≤ ·)) (a : Float)
    (g : RouteFollower) :
    l.zipIdx.foldl (fun g x => if x.1.along < a then g.visit x.2 else g) g =
      (List.range l.length).foldl
        (fun g i => if i < l.findIdx (fun s => !(s.along < a)) then g.visit i else g) g := by
  rw [List.foldl_ext _ (fun g x => if x.2 < l.findIdx (fun s => !(s.along < a)) then g.visit x.2
    else g) g ?_]
  · rw [show List.range l.length = l.zipIdx.map Prod.snd by simp [List.range_eq_range'],
      List.foldl_map]
  · rintro g ⟨s, i⟩ hx
    obtain ⟨hi, hs⟩ := List.mem_zipIdx' hx
    have hbehind : s.along < a ↔ i < l.findIdx (fun s => !(s.along < a)) :=
      hs ▸ along_lt_iff_lt_findIdx hl a hi
    dsimp only
    by_cases h : s.along < a
    · rw [if_pos h, if_pos (hbehind.mp h)]
    · rw [if_neg h, if_neg (mt hbehind.mpr h)]

/-- The first waypoint not behind `a`, by its index, if there is one. -/
theorem find?_not_behind (l : List Stop) (a : Float) :
    (l.zipIdx.find? fun x => !decide (x.1.along < a)).map (·.2) =
      if l.findIdx (fun s => !(s.along < a)) < l.length then
        some (l.findIdx fun s => !(s.along < a)) else none := by
  have hfind : (l.zipIdx.find? fun x => !decide (x.1.along < a)).map (·.2) =
      l.findIdx? (fun s => !(s.along < a)) :=
    (@List.findIdx?_eq_fst_find?_zipIdx Stop l fun s => !(s.along < a)).symm
  rw [hfind, List.findIdx?_eq_guard_findIdx_lt]
  simp [Option.guard]

/-- What an assignment builds on an ascending route with waypoints, from a state on that route
with none visited: the waypoints behind the point are visited, and the first other one is the
destination. -/
theorem assigned_progress {route : Route} (hasc : route.Ascending) (hne : route.stops ≠ [])
    (a : Float) (g : RouteFollower) (hroute : g.route = some route) (hinert : g.inert = false)
    (hg : g.VisitedBelow 0) (b : Bool) :
    ({ route.stops.zipIdx.foldl (fun g x => if x.1.along < a then g.visit x.2 else g) g with
        dest := (route.stops.zipIdx.find? fun x => !decide (x.1.along < a)).map (·.2),
        needsOrientation := b } : RouteFollower).Progress := by
  -- on ascending waypoints the pass visits a prefix, up to the first waypoint not behind
  rw [foldl_visit_behind hasc, find?_not_behind]
  set m := route.stops.findIdx fun s => !(s.along < a)
  have hmle : m ≤ route.stops.length := List.findIdx_le_length
  obtain ⟨hbelow, hsameRoute, hsameInert⟩ := foldl_visit_range m g hg route.stops.length
  rw [Nat.min_eq_right hmle] at hbelow
  set F := (List.range route.stops.length).foldl (fun g i => if i < m then g.visit i else g) g
  have hstops : F.stops = route.stops := by simp [RouteFollower.stops, hsameRoute, hroute]
  have hinert' : F.inert = true ↔ F.stops = [] := by
    rw [hsameInert, hinert, hstops]
    simp [hne]
  have hdest : (if m < route.stops.length then some m else none) =
      if m < F.stops.length then some m else none := by
    rw [hstops]
  exact (@progress_of_visitedBelow { F with
      dest := if m < route.stops.length then some m else none
      needsOrientation := b } m hinert' (hstops ▸ hmle) hdest
    ⟨hbelow.visited_eq, hbelow.visitedSet_iff⟩).1

/-- **An assignment starts well-formed progress**, on an ascending route or none. -/
theorem assign_progress (f : RouteFollower) {r : Option Route} (hr : ∀ route ∈ r, route.Ascending)
    (pos : Vec) (now : Float) (env : Option Index) (strict : Bool) :
    (f.assign r pos now env strict).1.Progress := by
  unfold assign
  cases r with
  | none => exact progress_of_inert rfl rfl rfl rfl fun _ => rfl
  | some route =>
    dsimp only
    split
    · rename_i hempty
      exact progress_of_inert rfl (by simpa [RouteFollower.stops] using hempty) rfl rfl fun _ => rfl
    · rename_i hne
      split <;> exact assigned_progress (hr route rfl) (by simpa using hne) _ _ rfl rfl
        ⟨rfl, fun j => by simp⟩ _

/-- **Finished exactly at the end.** A well-formed follower has finished exactly when its route has
no waypoints or every waypoint has been visited. -/
theorem Progress.finished_iff {f : RouteFollower} (hp : f.Progress) :
    f.finished = true ↔ f.stops = [] ∨ ∀ i < f.stops.length, i ∈ f.visited := by
  unfold finished
  rw [Bool.or_eq_true, hp.inert_iff, hp.visitedBelow.visited_eq]
  simp only [List.mem_range, destIndex]
  cases hd : f.dest with
  | none => simp
  | some k =>
    have hk := hp.dest_lt k hd
    have hnot : ¬ ∀ i < f.stops.length, i < k := fun h => Nat.lt_irrefl k (h k hk)
    simp [hnot]

/-! ## Runs -/

/-- A call the follower receives: an assignment, a tick, or the report of a displacement. -/
inductive Call where
  | assign (r : Option Route) (pos : Vec) (now : Float) (env : Option Index) (strict : Bool)
  | step (env : Option Index) (inp : Input)
  | updateSegment (src dst : Vec)

namespace Call

/-- The state after the call. -/
def apply : Call → RouteFollower → RouteFollower
  | .assign r pos now env strict, f => (f.assign r pos now env strict).1
  | .step env inp, f => (f.step env inp).2
  | .updateSegment src dst, f => f.updateSegment src dst

/-- The call assigns a route. -/
def isAssign : Call → Bool
  | .assign .. => true
  | _ => false

/-- The call assigns no route or an ascending one. -/
def Admissible : Call → Prop
  | .assign r .. => ∀ route ∈ r, route.Ascending
  | _ => True

theorem apply_progress {c : Call} (hc : c.Admissible) {f : RouteFollower} (hp : f.Progress) :
    (c.apply f).Progress := by
  cases c with
  | assign r pos now env strict => exact assign_progress f hc pos now env strict
  | step env inp => exact (step_advances hp env inp).progress
  | updateSegment src dst => exact (updateSegment_advances hp src dst).progress

theorem apply_advances {c : Call} (hc : c.isAssign = false) {f : RouteFollower} (hp : f.Progress) :
    Advances f (c.apply f) := by
  cases c with
  | assign => cases hc
  | step env inp => exact step_advances hp env inp
  | updateSegment src dst => exact updateSegment_advances hp src dst

end Call

/-- The state after a sequence of calls. -/
def run (f : RouteFollower) (calls : List Call) : RouteFollower :=
  calls.foldl (fun f c => c.apply f) f

/-- Admissible calls keep progress well-formed. -/
theorem run_progress (calls : List Call) (hcalls : ∀ c ∈ calls, c.Admissible) :
    ∀ {f : RouteFollower}, f.Progress → (f.run calls).Progress := by
  induction calls with
  | nil => exact fun hp => hp
  | cons c calls ih =>
    intro f hp
    exact ih (fun c' hc' => hcalls c' (List.mem_cons_of_mem c hc'))
      (Call.apply_progress (hcalls c List.mem_cons_self) hp)

/-- Calls that assign nothing move forward. -/
theorem run_advances (calls : List Call) (hcalls : ∀ c ∈ calls, c.isAssign = false) :
    ∀ {f : RouteFollower}, f.Progress → Advances f (f.run calls) := by
  induction calls with
  | nil => exact fun hp => .refl hp
  | cons c calls ih =>
    intro f hp
    have hstep := Call.apply_advances (hcalls c List.mem_cons_self) hp
    exact hstep.trans (ih (fun c' hc' => hcalls c' (List.mem_cons_of_mem c hc')) hstep.progress)

/-- **Progress along a route is a prefix that only grows.** After any sequence of assignments of
ascending routes, ticks and displacement reports, the visited waypoints are, in order and once
each, those before the destination (every waypoint when there is none), the set holds exactly
them, the destination is a waypoint, and the follower has finished exactly when its route has no
waypoints or all are visited; and until the next assignment, the visited list only grows and the
destination only moves forward. -/
theorem run_keeps_route_progress (id : Int) (t : Tuning) (calls : List Call)
    (hcalls : ∀ c ∈ calls, c.Admissible) :
    let f := (init id t).run calls
    f.visited = List.range f.destIndex ∧ f.visited.Nodup ∧
      (∀ i, f.visitedSet i = true ↔ i ∈ f.visited) ∧
      (∀ k, f.dest = some k → k < f.stops.length) ∧
      (f.finished = true ↔ f.stops = [] ∨ ∀ i < f.stops.length, i ∈ f.visited) ∧
      ∀ later : List Call, (∀ c ∈ later, c.isAssign = false) →
        f.visited <+: (f.run later).visited ∧ f.destIndex ≤ (f.run later).destIndex := by
  intro f
  have hp : f.Progress := run_progress calls hcalls (init_progress id t)
  have hvisited := hp.visitedBelow.visited_eq
  refine ⟨hvisited, hvisited ▸ List.nodup_range, fun i => ?_, hp.dest_lt, hp.finished_iff,
    fun later hlater => ?_⟩
  · rw [hp.visitedBelow.visitedSet_iff, hvisited, List.mem_range]
  · have hadv := run_advances later hlater hp
    exact ⟨hadv.visited, hadv.destIndex_le⟩

/-- Three waypoints a unit apart along the first axis. -/
def threeStops : Route :=
  ⟨1, [{ (default : Stop) with id := 1, position := ⟨0.0, 0.0⟩, along := 0.0 },
    { (default : Stop) with id := 2, position := ⟨1.0, 0.0⟩, along := 1.0 },
    { (default : Stop) with id := 3, position := ⟨2.0, 0.0⟩, along := 2.0 }], false⟩

/-- Assigned halfway between the second and third waypoints, a follower has visited the first
two. -/
theorem run_keeps_route_progress_halfway :
    (∀ c ∈ [Call.assign (some threeStops) ⟨1.5, 0.0⟩ 0.0 none false], c.Admissible) ∧
      ((init 1 default).run [Call.assign (some threeStops) ⟨1.5, 0.0⟩ 0.0 none false]).visited =
        [0, 1] := by
  have h : ∀ c ∈ [Call.assign (some threeStops) ⟨1.5, 0.0⟩ 0.0 none false], c.Admissible := by
    simp only [List.mem_singleton, forall_eq, Call.Admissible, Option.mem_def, Option.some.injEq,
      forall_eq', Route.Ascending]
    decide
  refine ⟨h, ?_⟩
  rw [(run_keeps_route_progress 1 default _ h).1]
  decide +kernel

end RouteFollower

end CrowdSim
