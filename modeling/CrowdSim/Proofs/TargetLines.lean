import Mathlib
import CrowdSim.Wayfinding.Route
import CrowdSim.Proofs.FloatOrder

/-!
# Made routes, and target lines that stop short of the walls they cross

`Route.make` keeps the waypoints in order, the first at distance zero and each other the length
of its leg, at least `tolerance`, after the one before (`Route.make_spec`). The distances are sums
of doubles, so a leg short against the distance already walked adds nothing and two waypoints
can lie at one distance: the distances need not increase strictly.

A waypoint's target line is two halves from the waypoint, across the route, each cut by
`Route.clip` (`Route.derived_targetLine`): a half runs to its full end unless the intersection
test finds a wall across it, and otherwise stops `targetClearance` short of the nearest crossing.

* `Route.NearestSoFar.foldl`: the search for the nearest crossing keeps, after any crossings,
  either nothing within reach or a crossing within reach no farther than any other;
* `Route.clip_stopsShort`: so `clip` gives one of the two ends `Route.StopsShort` allows;
* `Route.target_line_ends_stop_short`: every target line of a derived route is made of two
  such halves, opposite ways from its waypoint.

The intersection test leaves out every wall parallel to a half, while visibility counts a
wall that a sight line runs along. So a wall lying on the line of a half is no crossing, the
half runs into it, and its end is not visible from the waypoint
(`Route.target_line_runs_into_collinear_wall`).
-/

namespace CrowdSim

namespace Route

section Search

variable {K : Type} [Scalar K]

/-- The points where the half-line from `src` to `dst` crosses the walls near it, by the
intersection test `clip` uses. -/
def crossings (idx : Index K) (src dst : Vec K) : List (Vec K) :=
  (idx.queryWalls (⟨src, dst⟩ : Segment K).bound).filterMap fun w =>
    (⟨src, dst⟩ : Segment K).intersection w.segment

/-- One step of the search for the nearest crossing: a crossing no farther than the best so far
becomes the best. -/
def nearerStep (src : Vec K) (acc : K × Bool) (p : Vec K) : K × Bool :=
  if src.dist p ≤ acc.1 then (src.dist p, true) else acc

theorem clip_some (idx : Index K) (src dst : Vec K) (c : K) :
    clip (some idx) src dst c =
      let r := (crossings idx src dst).foldl (nearerStep src)
        ((⟨src, dst⟩ : Segment K).length, false)
      if !r.2 then dst
      else src + (⟨src, dst⟩ : Segment K).direction.scale (Scalar.maxOf (r.1 - c) 0.0) := by
  rfl

end Search

/-! ## The nearest crossing -/

/-- What the search holds after the crossings `ps`, started from the length `reach` of the half:
nothing found within reach, the best still the reach; or the distance of a crossing within reach,
at most that of every crossing whose distance is a number. -/
def NearestSoFar (src : Vec) (reach : Float) (ps : List Vec) (acc : Float × Bool) : Prop :=
  (acc.2 = false ∧ acc.1 = reach ∧ ∀ p ∈ ps, ¬ src.dist p ≤ reach) ∨
  (acc.2 = true ∧ acc.1 ≤ reach ∧ (∃ p ∈ ps, src.dist p = acc.1) ∧
    ∀ p ∈ ps, (src.dist p).isNaN = false → acc.1 ≤ src.dist p)

theorem nearestSoFar_nil (src : Vec) (reach : Float) : NearestSoFar src reach [] (reach, false) :=
  .inl ⟨rfl, rfl, by simp⟩

/-- One more crossing keeps the search's invariant. The order of doubles is total only away
from NaN, so a crossing at a NaN distance is passed over and owes nothing. -/
theorem NearestSoFar.step {src : Vec} {reach : Float} {ps : List Vec} {acc : Float × Bool}
    (h : NearestSoFar src reach ps acc) (p : Vec) :
    NearestSoFar src reach (ps ++ [p]) (nearerStep src acc p) := by
  unfold nearerStep
  rcases h with ⟨hhit, hacc, hfar⟩ | ⟨hhit, hle, ⟨q, hq, hqd⟩, hmin⟩
  · -- nothing within reach so far
    split
    · rename_i hd
      rw [hacc] at hd
      obtain ⟨hdn, hrn⟩ := float_isNaN_of_le hd
      refine .inr ⟨rfl, hd, ⟨p, by simp, rfl⟩, ?_⟩
      intro q hq hqn
      rcases List.mem_append.mp hq with hq | hq
      · exact float_le_of_lt (float_lt_of_le_of_lt hd (float_lt_of_not_le hrn hqn (hfar q hq)))
      · rw [List.mem_singleton.mp hq]
        exact float_le_refl hdn
    · rename_i hd
      rw [hacc] at hd
      refine .inl ⟨hhit, hacc, ?_⟩
      intro q hq
      rcases List.mem_append.mp hq with hq | hq
      · exact hfar q hq
      · rwa [List.mem_singleton.mp hq]
  · -- a crossing within reach found so far
    split
    · rename_i hd
      obtain ⟨hdn, -⟩ := float_isNaN_of_le hd
      refine .inr ⟨rfl, float_le_trans hd hle, ⟨p, by simp, rfl⟩, ?_⟩
      intro q hq hqn
      rcases List.mem_append.mp hq with hq | hq
      · exact float_le_trans hd (hmin q hq hqn)
      · rw [List.mem_singleton.mp hq]
        exact float_le_refl hdn
    · rename_i hd
      obtain ⟨hbn, -⟩ := float_isNaN_of_le hle
      refine .inr ⟨hhit, hle, ⟨q, List.mem_append_left _ hq, hqd⟩, ?_⟩
      intro q' hq' hqn
      rcases List.mem_append.mp hq' with hq' | hq'
      · exact hmin q' hq' hqn
      · rw [List.mem_singleton.mp hq'] at hqn ⊢
        exact float_le_of_lt (float_lt_of_not_le hbn hqn hd)

/-- The whole search keeps the invariant: induction over the crossings still to come. -/
theorem NearestSoFar.foldl {src : Vec} {reach : Float} {ps : List Vec} {acc : Float × Bool}
    (h : NearestSoFar src reach ps acc) (qs : List Vec) :
    NearestSoFar src reach (ps ++ qs) (qs.foldl (nearerStep src) acc) := by
  induction qs generalizing ps acc with
  | nil => simpa using h
  | cons q qs ih =>
    rw [List.foldl_cons, show ps ++ q :: qs = ps ++ [q] ++ qs by simp]
    exact ih (h.step q)

/-! ## Where a half ends -/

/-- Where a half from `src` toward `dst` may end: at `dst` when no crossing lies within its
length, else `c` short of a crossing within its length that is no farther than any crossing
whose distance is a number. -/
def StopsShort (idx : Index) (src dst e : Vec) (c : Float) : Prop :=
  (e = dst ∧ ∀ p ∈ crossings idx src dst, ¬ src.dist p ≤ (⟨src, dst⟩ : Segment).length) ∨
  ∃ p ∈ crossings idx src dst, src.dist p ≤ (⟨src, dst⟩ : Segment).length ∧
    (∀ q ∈ crossings idx src dst, (src.dist q).isNaN = false → src.dist p ≤ src.dist q) ∧
    e = src + (⟨src, dst⟩ : Segment).direction.scale (Scalar.maxOf (src.dist p - c) 0.0)

/-- **A half is cut short of the nearest crossing.** -/
theorem clip_stopsShort (idx : Index) (src dst : Vec) (c : Float) :
    StopsShort idx src dst (clip (some idx) src dst c) c := by
  have h := (nearestSoFar_nil src (⟨src, dst⟩ : Segment).length).foldl (crossings idx src dst)
  rw [List.nil_append] at h
  rw [clip_some]
  dsimp only
  generalize (crossings idx src dst).foldl (nearerStep src) _ = r at h ⊢
  rcases h with ⟨hhit, -, hfar⟩ | ⟨hhit, hle, ⟨p, hp, hpd⟩, hmin⟩
  · exact .inl ⟨by simp [hhit], hfar⟩
  · refine .inr ⟨p, hp, hpd ▸ hle, fun q hq hqn => hpd ▸ hmin q hq hqn, ?_⟩
    simp [hhit, hpd]

/-! ## Made routes -/

theorem except_map_eq_ok {ε α β : Type} {f : α → β} {x : Except ε α} {y : β}
    (h : x.map f = .ok y) : ∃ a, x = .ok a ∧ y = f a := by
  cases x with
  | error e => cases h
  | ok a =>
    simp only [Except.map, Except.ok.injEq] at h
    exact ⟨a, rfl, h.symm⟩

/-- `t` follows `s` on a made route: it lies at least `tolerance` from `s`, the length of the
leg further along, and records that leg. -/
def Follows (s t : Stop) : Prop :=
  ¬ s.position.dist t.position < tolerance ∧ t.along = s.along + s.position.dist t.position ∧
    t.connection = some ⟨s.position, t.position⟩

/-- A placed waypoint: its position is finite, its width and waiting period are not negative,
and no geometry is derived yet. -/
def Placed (s : Stop) : Prop :=
  s.position.isNaN = false ∧ (s.width < 0.0 || s.waitingPeriod < 0.0) = false ∧
    s.targetLine = none ∧ s.passingArea = []

/-- Placing waypoints after `prev`, which lies `along` from the start, keeps the waypoints, places
each with no geometry, and puts each the length of its leg after the one before. -/
theorem place_spec {id : Int} :
    ∀ {prev : Option Stop} {along : Float} {wps : List Waypoint} {stops : List Stop},
      (∀ p ∈ prev, p.along = along) → place id prev along wps = .ok stops →
        stops.map (·.toWaypoint) = wps ∧ (∀ s ∈ stops, Placed s) ∧
          (prev.toList ++ stops).IsChain Follows ∧
          (prev = none → ∀ s ∈ stops.head?, s.along = along ∧ s.connection = none) := by
  intro prev along wps
  induction wps generalizing prev along with
  | nil =>
    intro stops _ h
    cases h
    cases prev <;> simp
  | cons w ws ih =>
    intro stops hprev h
    unfold place at h
    split_ifs at h with hnan hsize
    have hw : ∀ a c, Placed ⟨w, a, c, none, []⟩ := fun _ _ =>
      ⟨by simpa using hnan, by simpa using hsize, rfl, rfl⟩
    -- the rest is placed after the new waypoint, from its distance
    have hnext : ∀ s : Stop, ∀ q ∈ some s, q.along = s.along := fun s q hq => by
      rw [Option.mem_some_iff] at hq
      subst hq
      rfl
    cases prev with
    | none =>
      obtain ⟨rest, hrest, rfl⟩ := except_map_eq_ok h
      obtain ⟨hmap, hpl, hchain, -⟩ := ih (hnext _) hrest
      refine ⟨by simp [hmap], List.forall_mem_cons.mpr ⟨hw _ _, hpl⟩, by simpa using hchain, ?_⟩
      intro _ s hs
      rw [List.head?_cons, Option.mem_some_iff] at hs
      subst hs
      exact ⟨rfl, rfl⟩
    | some p =>
      dsimp only at h
      split_ifs at h with hstep
      obtain ⟨rest, hrest, rfl⟩ := except_map_eq_ok h
      obtain ⟨hmap, hpl, hchain, -⟩ := ih (hnext _) hrest
      have hpa : p.along = along := hprev p rfl
      refine ⟨by simp [hmap], List.forall_mem_cons.mpr ⟨hw _ _, hpl⟩, ?_, fun h => by cases h⟩
      -- the new waypoint follows the previous one
      exact List.IsChain.cons_cons ⟨hstep, by rw [hpa], rfl⟩ (by simpa using hchain)

/-- **What a made route records.** A route made from waypoints keeps them in order with nothing
derived; the first lies at distance zero with no leg, and each other the length of its leg,
at least `tolerance`, after the one before. The distances are sums of doubles: a leg short
against the distance already walked adds nothing, so two waypoints may lie at one distance. -/
theorem make_spec {id : Int} {wps : List Waypoint} {r : Route} (h : Route.make id wps = .ok r) :
    r.id = id ∧ r.derived = false ∧ r.stops.map (·.toWaypoint) = wps ∧ (∀ s ∈ r.stops, Placed s) ∧
      (∀ s ∈ r.stops.head?, s.along = 0.0 ∧ s.connection = none) ∧ r.stops.IsChain Follows := by
  obtain ⟨stops, hplace, rfl⟩ := except_map_eq_ok h
  obtain ⟨hmap, hpl, hchain, hfirst⟩ := place_spec (fun _ hp => by cases hp) hplace
  exact ⟨rfl, rfl, hmap, hpl, hfirst rfl, by simpa using hchain⟩

example : (match Route.make 1 [⟨1, ⟨0.0, 0.0⟩, 1.0, 0.0⟩, ⟨2, ⟨1e17, 0.0⟩, 1.0, 0.0⟩,
    ⟨3, ⟨1e17, 1.0⟩, 1.0, 0.0⟩] with
    | .ok r => r.stops.map (·.along) == [0.0, 1e17, 1e17]
    | .error _ => false) = true := by
  decide +kernel

/-! ## Derived routes -/

/-- Every waypoint of a derived list is a waypoint of the list, derived beside some
neighbours. -/
theorem mem_deriveAll {walls : Option Index} {t : Tuning} :
    ∀ {prev : Option Stop} {ss : List Stop} {s' : Stop}, s' ∈ deriveAll walls t prev ss →
      ∃ s ∈ ss, ∃ p n, s' = deriveStop walls t p s n := by
  intro prev ss
  induction ss generalizing prev with
  | nil => simp [deriveAll]
  | cons s ss ih =>
    intro s' hs'
    rcases List.mem_cons.mp hs' with rfl | hs'
    · exact ⟨s, List.mem_cons_self, _, _, rfl⟩
    · obtain ⟨s₀, hs₀, p, n, rfl⟩ := ih hs'
      exact ⟨s₀, List.mem_cons_of_mem _ hs₀, p, n, rfl⟩

theorem deriveStop_position (walls : Option Index) (t : Tuning) (p : Option Stop) (s : Stop)
    (n : Option Stop) : (deriveStop walls t p s n).position = s.position := by
  unfold deriveStop
  dsimp only
  split <;> rfl

/-- A waypoint keeps its target line, or gets the two halves across the route, each cut by
`clip`. -/
theorem deriveStop_targetLine {walls : Option Index} {t : Tuning} {p : Option Stop} {s : Stop}
    {n : Option Stop} {line : Segment} (h : (deriveStop walls t p s n).targetLine = some line) :
    s.targetLine = some line ∨ ∃ v : Vec,
      line = ⟨clip walls s.position (s.position + v) t.targetClearance,
        clip walls s.position (s.position - v) t.targetClearance⟩ := by
  unfold deriveStop at h
  dsimp only at h
  split at h
  · exact .inl h
  · exact .inr ⟨_, (Option.some.inj h).symm⟩

/-- **A target line is two clipped halves.** In a route made from waypoints and derived against
`walls`, every target line runs between the clipped ends of two opposite halves from its
waypoint. -/
theorem derived_targetLine {id : Int} {wps : List Waypoint} {r : Route}
    (hr : Route.make id wps = .ok r) (walls : Option Index) (t : Tuning) :
    ∀ s ∈ (r.deriveGeometry walls t).stops, ∀ line, s.targetLine = some line →
      ∃ v : Vec, line = ⟨clip walls s.position (s.position + v) t.targetClearance,
        clip walls s.position (s.position - v) t.targetClearance⟩ := by
  obtain ⟨-, hder, -, hplaced, -, -⟩ := make_spec hr
  intro s' hs' line hline
  simp only [deriveGeometry, hder, Bool.false_eq_true, if_false] at hs'
  obtain ⟨s, hs, p, n, rfl⟩ := mem_deriveAll hs'
  rw [deriveStop_position]
  rcases deriveStop_targetLine hline with hkept | hclip
  · -- a made waypoint has no target line to keep
    rw [(hplaced s hs).2.2.1] at hkept
    cases hkept
  · exact hclip

/-- **Target lines stop short of the walls the intersection test sees.** In a route made from
waypoints and derived against the walls of an index, every target line is two halves from its
waypoint, opposite ways: each ends at its full end when no crossing found by the intersection
test lies within its length, and otherwise `targetClearance` short of the nearest crossing. -/
theorem target_line_ends_stop_short {id : Int} {wps : List Waypoint} {r : Route}
    (hr : Route.make id wps = .ok r) (idx : Index) (t : Tuning) :
    ∀ s ∈ (r.deriveGeometry (some idx) t).stops, ∀ line, s.targetLine = some line →
      ∃ v : Vec, StopsShort idx s.position (s.position + v) line.a t.targetClearance ∧
        StopsShort idx s.position (s.position - v) line.b t.targetClearance := by
  intro s hs line hline
  obtain ⟨v, rfl⟩ := derived_targetLine hr (some idx) t s hs line hline
  exact ⟨v, clip_stopsShort _ _ _ _, clip_stopsShort _ _ _ _⟩

/-- A wall along the line of a half is no crossing: the half of the waypoint at the origin runs
to its full end `(2, 0)`, on the wall from `(1, 0)` to `(3, 0)`, which hides it from the
waypoint. -/
theorem target_line_runs_into_collinear_wall :
    (((Index.empty 0.0).addBoundaries [⟨⟨1.0, 0.0⟩, ⟨3.0, 0.0⟩⟩]).toOption.bind fun idx =>
      (Route.make 1 [⟨1, ⟨0.0, 0.0⟩, 4.0, 0.0⟩]).toOption.bind fun r =>
        ((r.deriveGeometry (some idx) Tuning.default).stops.head?.bind (·.targetLine)).map
          fun line => (line.b.x == 2.0 && line.b.y == 0.0, idx.visible ⟨0.0, 0.0⟩ line.b)) =
      some (true, false) := by
  decide +kernel

end Route

end CrowdSim
