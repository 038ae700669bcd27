import Mathlib
import CrowdSim.Proofs.TargetLines
import CrowdSim.Proofs.IndexContents

/-!
# Clear sight to the ends of a target line, in exact geometry

Over `ℝ`, `Route.clip` cuts a half at the nearest of its crossings found by the intersection
test, `clearance` short of it. The intersection test leaves out a wall parallel to the half
within `tolerance`; every other wall that meets the half is found at the exact meeting point
(`Segment.intersection_of_common`). So the clipped end lies on the half before every crossing,
or is the waypoint itself (`Route.clip_before_crossings`), and the sight line from the waypoint
to it meets no wall the test sees, as long as the waypoint lies on none
(`Route.clip_sight_clear`).

The index's visibility test is not exact: it also reports a wall that only comes within
`tolerance` of the sight line (`Segment.Grazes`). So the end is visible from the waypoint unless
a wall is parallel to the half within `tolerance` or grazes the sight line
(`Route.clip_visible_or_grazes`). Both exceptions happen: a wall along the line of a half hides
its full end (`Route.target_line_runs_into_collinear_wall`).
-/

namespace CrowdSim

namespace Segment

/-- `p` lies on the segment, a fraction `t ∈ [0, 1]` of the way from `a` to `b`. -/
def HasPoint (s : Segment ℝ) (p : Vec ℝ) : Prop :=
  ∃ t : ℝ, 0 ≤ t ∧ t ≤ 1 ∧ p = s.a + (s.b - s.a).scale t

/-- An end of one segment lies within `tolerance` of the other's line and of its box grown by
`tolerance`: how the visibility test finds two segments meeting without a crossing. -/
def Grazes (s o : Segment ℝ) : Prop :=
  (|orient o.a o.b s.a| ≤ tolerance ∧ withinSpan o.a o.b s.a = true) ∨
    (|orient o.a o.b s.b| ≤ tolerance ∧ withinSpan o.a o.b s.b = true) ∨
    (|orient s.a s.b o.a| ≤ tolerance ∧ withinSpan s.a s.b o.a = true) ∨
    (|orient s.a s.b o.b| ≤ tolerance ∧ withinSpan s.a s.b o.b = true)

/-- **Two segments that meet cross or graze.** Segments the visibility test finds meeting have a
common point, or one grazes the other. -/
theorem intersects_cases {s o : Segment ℝ} (h : s.intersects o = true) :
    (∃ p, s.HasPoint p ∧ o.HasPoint p) ∨ s.Grazes o := by
  rw [intersects_iff] at h
  rcases h with ⟨h12, h34⟩ | hg
  · obtain ⟨t, u, ht0, ht1, hu0, hu1, hp⟩ := exists_common_lerp s o h12.mul_neg h34.mul_neg
    exact .inl ⟨_, ⟨t, ht0, ht1, rfl⟩, ⟨u, hu0, hu1, hp⟩⟩
  · exact .inr hg

/-- **The intersection test finds every common point of segments it does not call parallel.**
When the cross product of the two directions is at least `tolerance` in size, a point a fraction
`t` along the first segment and `u` along the second, both in `[0, 1]`, is the point the test
gives. -/
theorem intersection_of_common {s o : Segment ℝ}
    (hden : tolerance ≤ |(s.b - s.a).cross (o.b - o.a)|) {t u : ℝ} (ht0 : 0 ≤ t) (ht1 : t ≤ 1)
    (hu0 : 0 ≤ u) (hu1 : u ≤ 1) (h : s.a + (s.b - s.a).scale t = o.a + (o.b - o.a).scale u) :
    s.intersection o = some (s.a + (s.b - s.a).scale t) := by
  have htol := tolerance_pos
  have hne : (s.b - s.a).cross (o.b - o.a) ≠ 0 := by
    intro h0
    rw [h0, abs_zero] at hden
    linarith
  have hx := congrArg Vec.x h
  have hy := congrArg Vec.y h
  simp only [Vec.add_x, Vec.add_y, Vec.scale_x, Vec.scale_y, Vec.sub_x, Vec.sub_y] at hx hy
  -- the test's two parameters are the fractions of the common point
  have hpt : (o.a - s.a).cross (o.b - o.a) / (s.b - s.a).cross (o.b - o.a) = t := by
    rw [div_eq_iff hne]
    simp only [Vec.cross, Vec.sub_x, Vec.sub_y]
    linear_combination (-(o.b.y - o.a.y)) * hx + (o.b.x - o.a.x) * hy
  have hpu : (o.a - s.a).cross (s.b - s.a) / (s.b - s.a).cross (o.b - o.a) = u := by
    rw [div_eq_iff hne]
    simp only [Vec.cross, Vec.sub_x, Vec.sub_y]
    linear_combination (-(s.b.y - s.a.y)) * hx + (s.b.x - s.a.x) * hy
  unfold intersection
  simp only [Scalar.abs_real]
  rw [if_neg (not_lt.mpr hden), hpt, hpu, if_neg]
  have h1 : (1.0 : ℝ) = 1 := by norm_num
  simp only [Bool.or_eq_true, decide_eq_true_eq, gt_iff_lt, not_or, not_lt, h1]
  refine ⟨⟨⟨?_, ?_⟩, ?_⟩, ?_⟩ <;> linarith

/-- A segment shorter than `tolerance` has no direction. -/
theorem direction_of_short {s : Segment ℝ} (h : (s.b - s.a).length < tolerance) :
    s.direction = Vec.zero := by
  unfold direction Vec.normalize
  dsimp only
  rw [if_pos h]

/-- Any other segment's direction is its vector over its length. -/
theorem direction_of_long {s : Segment ℝ} (h : ¬ (s.b - s.a).length < tolerance) :
    s.direction = ⟨(s.b - s.a).x / (s.b - s.a).length, (s.b - s.a).y / (s.b - s.a).length⟩ := by
  unfold direction Vec.normalize
  dsimp only
  rw [if_neg h]

end Segment

namespace Vec

/-- Moving `τ ≥ 0` times `v` covers `τ` times the length of `v`. -/
theorem dist_add_scale (p v : Vec ℝ) {τ : ℝ} (hτ : 0 ≤ τ) : p.dist (p + v.scale τ) = τ * v.length := by
  rw [dist_real]
  simp only [add_x, add_y, scale_x, scale_y, Vec.length, Scalar.hypot_real]
  rw [show (p.x - (p.x + v.x * τ)) ^ 2 + (p.y - (p.y + v.y * τ)) ^ 2 = τ ^ 2 * (v.x ^ 2 + v.y ^ 2) by
    ring, Real.sqrt_mul (sq_nonneg τ), Real.sqrt_sq hτ]

end Vec

namespace Route

/-! ## The search for the nearest crossing, over `ℝ` -/

/-- What the search holds over `ℝ` after the crossings `ps`, from the length `reach` of the half:
a best at most the reach and at most the distance of every crossing; and while nothing is found,
the reach, with every crossing beyond it. -/
def NearestReal (src : Vec ℝ) (reach : ℝ) (ps : List (Vec ℝ)) (acc : ℝ × Bool) : Prop :=
  acc.1 ≤ reach ∧ (∀ p ∈ ps, acc.1 ≤ src.dist p) ∧
    (acc.2 = false → acc.1 = reach ∧ ∀ p ∈ ps, reach < src.dist p)

/-- One more crossing keeps the search's invariant. -/
theorem NearestReal.step {src : Vec ℝ} {reach : ℝ} {ps : List (Vec ℝ)} {acc : ℝ × Bool}
    (h : NearestReal src reach ps acc) (p : Vec ℝ) :
    NearestReal src reach (ps ++ [p]) (nearerStep src acc p) := by
  obtain ⟨hle, hmin, hnone⟩ := h
  unfold nearerStep
  split
  · -- the crossing is the new best
    rename_i hd
    refine ⟨hd.trans hle, fun q hq => ?_, fun h => by cases h⟩
    rcases List.mem_append.mp hq with hq | hq
    · exact hd.trans (hmin q hq)
    · rw [List.mem_singleton.mp hq]
  · rename_i hd
    refine ⟨hle, fun q hq => ?_, fun h => ⟨(hnone h).1, fun q hq => ?_⟩⟩
    · rcases List.mem_append.mp hq with hq | hq
      · exact hmin q hq
      · rw [List.mem_singleton.mp hq]
        exact (not_le.mp hd).le
    · rcases List.mem_append.mp hq with hq | hq
      · exact (hnone h).2 q hq
      · rw [List.mem_singleton.mp hq, ← (hnone h).1]
        exact not_le.mp hd

/-- The whole search keeps the invariant: induction over the crossings still to come. -/
theorem NearestReal.foldl {src : Vec ℝ} {reach : ℝ} {ps : List (Vec ℝ)} {acc : ℝ × Bool}
    (h : NearestReal src reach ps acc) (qs : List (Vec ℝ)) :
    NearestReal src reach (ps ++ qs) (qs.foldl (nearerStep src) acc) := by
  induction qs generalizing ps acc with
  | nil => simpa using h
  | cons q qs ih =>
    rw [List.foldl_cons, show ps ++ q :: qs = ps ++ [q] ++ qs by simp]
    exact ih (h.step q)

/-! ## The clipped end -/

/-- **The clipped end lies before every crossing.** Over `ℝ`, with a positive clearance, the
end `clip` gives lies on the half, a fraction `k` of the way, and either is the waypoint itself
or lies nearer than every crossing the intersection test finds. -/
theorem clip_before_crossings (idx : Index ℝ) (src dst : Vec ℝ) {c : ℝ} (hc : 0 < c) :
    ∃ k : ℝ, 0 ≤ k ∧ k ≤ 1 ∧ clip (some idx) src dst c = src + (dst - src).scale k ∧
      (k = 0 ∨ ∀ p ∈ crossings idx src dst, k * (dst - src).length < src.dist p) := by
  have hL : (⟨src, dst⟩ : Segment ℝ).length = (dst - src).length := by
    simp only [Segment.length, Vec.length_sub, Vec.dist_comm]
  have h := (show NearestReal src (dst - src).length [] ((dst - src).length, false) from
    ⟨le_rfl, by simp, fun _ => ⟨rfl, by simp⟩⟩).foldl (crossings idx src dst)
  rw [List.nil_append] at h
  rw [clip_some, hL]
  dsimp only
  generalize (crossings idx src dst).foldl (nearerStep src) _ = r at h ⊢
  obtain ⟨hle, hmin, hnone⟩ := h
  have h00 : (0.0 : ℝ) = 0 := by norm_num
  simp only [Scalar.maxOf_real, h00]
  cases hhit : r.2
  · -- nothing within reach: the full half, every crossing beyond it
    refine ⟨1, zero_le_one, le_rfl, ?_, .inr fun p hp => ?_⟩
    · simp only [Bool.not_false, if_true]
      exact Vec.ext (by simp) (by simp)
    · rw [one_mul]
      exact (hnone hhit).2 p hp
  · simp only [Bool.not_true, Bool.false_eq_true, if_false]
    have hlen : 0 ≤ (dst - src).length := Real.sqrt_nonneg _
    by_cases hshort : (dst - src).length < tolerance
    · -- a half too short to have a direction ends where it starts
      refine ⟨0, le_rfl, zero_le_one, ?_, .inl rfl⟩
      rw [Segment.direction_of_short hshort]
      exact Vec.ext (by simp) (by simp)
    · -- `c` short of the best crossing, or at the start
      have hpos : 0 < (dst - src).length := lt_of_lt_of_le tolerance_pos (not_lt.mp hshort)
      refine ⟨max (r.1 - c) 0 / (dst - src).length, div_nonneg (le_max_right _ _) hlen, ?_, ?_, ?_⟩
      · rw [div_le_one hpos]
        exact max_le (by linarith) hlen
      · rw [Segment.direction_of_long hshort]
        refine Vec.ext ?_ ?_ <;>
          simp only [Vec.add_x, Vec.add_y, Vec.scale_x, Vec.scale_y, Vec.sub_x, Vec.sub_y] <;> ring
      · rcases max_cases (r.1 - c) 0 with ⟨hmax, -⟩ | ⟨hmax, -⟩
        · refine .inr fun p hp => ?_
          rw [div_mul_cancel₀ _ hpos.ne', hmax]
          linarith [hmin p hp]
        · left
          rw [hmax, zero_div]

section Clip

variable {idx : Index ℝ} (hs : idx.Stored) (hpad : 0 ≤ idx.pad)
include hs hpad

/-- A point of a wall the intersection test sees, on the half, is one of the half's crossings. -/
theorem mem_crossings {src dst : Vec ℝ} {w : Wall ℝ} (hw : w ∈ idx.walls)
    (hseen : tolerance ≤ |(dst - src).cross (w.segment.b - w.segment.a)|) {τ u : ℝ} (hτ0 : 0 ≤ τ)
    (hτ1 : τ ≤ 1) (hu0 : 0 ≤ u) (hu1 : u ≤ 1)
    (h : src + (dst - src).scale τ = w.segment.a + (w.segment.b - w.segment.a).scale u) :
    src + (dst - src).scale τ ∈ crossings idx src dst := by
  have hint := Segment.intersection_of_common (s := ⟨src, dst⟩) hseen hτ0 hτ1 hu0 hu1 h
  refine List.mem_filterMap.mpr ⟨w, ?_, hint⟩
  -- the wall's box meets the half's, since the point lies in both
  refine (hs.queryWalls_perm _).mem_iff.mpr (List.mem_filter.mpr ⟨hw, ?_⟩)
  have hin := (Box.contains_iff _ _).mp (w.segment.bound_contains_lerp hu0 hu1)
  rw [← h] at hin
  have htol := tolerance_pos
  rw [hs.boxes w hw]
  exact Rect.meets_of_near (Segment.bound_ordered _) (Segment.bound_ordered _) hpad
    (Box.near_of_mem ((⟨src, dst⟩ : Segment ℝ).bound_contains_lerp hτ0 hτ1)
      ⟨by linarith [hin.1], by linarith [hin.2.1], by linarith [hin.2.2.1], by linarith [hin.2.2.2]⟩)

/-- **The sight to a clipped end is clear of every wall the intersection test sees.** Over `ℝ`,
with a positive clearance, when the waypoint lies on no wall, no point of the sight line from
the waypoint to the end `clip` gives lies on a wall that is not parallel to the half within
`tolerance`. -/
theorem clip_sight_clear (src dst : Vec ℝ) {c : ℝ} (hc : 0 < c)
    (hsrc : ∀ w ∈ idx.walls, ¬ w.segment.HasPoint src) {w : Wall ℝ} (hw : w ∈ idx.walls)
    (hseen : tolerance ≤ |(dst - src).cross (w.segment.b - w.segment.a)|) {p : Vec ℝ}
    (hp : (⟨src, clip (some idx) src dst c⟩ : Segment ℝ).HasPoint p) : ¬ w.segment.HasPoint p := by
  obtain ⟨k, hk0, hk1, hend, hbefore⟩ := clip_before_crossings idx src dst hc
  rintro ⟨u, hu0, hu1, hpw⟩
  obtain ⟨t, ht0, ht1, rfl⟩ := hp
  -- the point is a fraction `t * k` of the way along the half
  have hpt : src + (clip (some idx) src dst c - src).scale t = src + (dst - src).scale (t * k) := by
    rw [hend]
    refine Vec.ext ?_ ?_ <;> simp <;> ring
  rw [hpt] at hpw
  have htk0 : 0 ≤ t * k := mul_nonneg ht0 hk0
  have htk1 : t * k ≤ 1 := mul_le_one₀ ht1 hk0 hk1
  have hmem := mem_crossings hs hpad hw hseen htk0 htk1 hu0 hu1 hpw
  rcases hbefore with rfl | hfar
  · -- the end is the waypoint, which lies on no wall
    refine hsrc w hw ⟨u, hu0, hu1, ?_⟩
    rw [← hpw]
    refine Vec.ext ?_ ?_ <;> simp
  · -- a crossing at a fraction `t * k ≤ k` of the half lies no farther than the end
    have hd := hfar _ hmem
    rw [Vec.dist_add_scale _ _ htk0] at hd
    have hlen : 0 ≤ (dst - src).length := Real.sqrt_nonneg _
    have hle : t * k * (dst - src).length ≤ k * (dst - src).length := by
      nlinarith [mul_nonneg hk0 hlen]
    linarith

/-- **The end is visible unless a wall is parallel to the half or grazes the sight line.** -/
theorem clip_visible_or_grazes (src dst : Vec ℝ) {c : ℝ} (hc : 0 < c)
    (hsrc : ∀ w ∈ idx.walls, ¬ w.segment.HasPoint src) :
    idx.visible src (clip (some idx) src dst c) = true ∨ ∃ w ∈ idx.walls,
      |(dst - src).cross (w.segment.b - w.segment.a)| < tolerance ∨
        (⟨src, clip (some idx) src dst c⟩ : Segment ℝ).Grazes w.segment := by
  by_cases hv : idx.visible src (clip (some idx) src dst c) = true
  · exact .inl hv
  right
  rw [Index.visible_iff_walls hs hpad] at hv
  simp only [not_forall, Bool.not_eq_false, exists_prop] at hv
  obtain ⟨w, hw, hmeet⟩ := hv
  refine ⟨w, hw, ?_⟩
  by_cases hpar : |(dst - src).cross (w.segment.b - w.segment.a)| < tolerance
  · exact .inl hpar
  · -- a wall the test sees cannot cross the sight line, so it grazes it
    rcases Segment.intersects_cases hmeet with ⟨p, hp, hpw⟩ | hg
    · exact absurd hpw (clip_sight_clear hs hpad src dst hc hsrc hw (not_lt.mp hpar) hp)
    · exact .inr hg

end Clip

/-- **Target lines end in sight of their waypoint, but for walls parallel to a half or grazing
the sight line.** In a route made from waypoints and derived against any walls, every target
line runs between the clipped ends of two opposite halves from its waypoint. Over `ℝ`, for an
index the program builds, a waypoint `src` on no wall, any half from it to `dst` and a positive
clearance, no point of the sight line from `src` to the clipped end lies on a wall that is not
parallel to the half within `tolerance`; so the end is visible from `src` unless some wall is
parallel to the half within `tolerance` or grazes the sight line. -/
theorem target_line_ends_clear_of_walls (idx : Index ℝ) (hidx : idx.Reachable) (src dst : Vec ℝ)
    {c : ℝ} (hc : 0 < c) (hsrc : ∀ w ∈ idx.walls, ¬ w.segment.HasPoint src) :
    (∀ {id : Int} {wps : List Waypoint} {r : Route}, Route.make id wps = .ok r →
      ∀ (walls : Option Index) (t : Tuning), ∀ s ∈ (r.deriveGeometry walls t).stops, ∀ line,
        s.targetLine = some line → ∃ v : Vec,
          line = ⟨clip walls s.position (s.position + v) t.targetClearance,
            clip walls s.position (s.position - v) t.targetClearance⟩) ∧
    (∀ w ∈ idx.walls, tolerance ≤ |(dst - src).cross (w.segment.b - w.segment.a)| →
      ∀ p, (⟨src, clip (some idx) src dst c⟩ : Segment ℝ).HasPoint p → ¬ w.segment.HasPoint p) ∧
    (idx.visible src (clip (some idx) src dst c) = true ∨ ∃ w ∈ idx.walls,
      |(dst - src).cross (w.segment.b - w.segment.a)| < tolerance ∨
        (⟨src, clip (some idx) src dst c⟩ : Segment ℝ).Grazes w.segment) := by
  have hs := hidx.stored
  have hpad := hidx.pad_nonneg
  exact ⟨fun hr walls t => derived_targetLine hr walls t,
    fun w hw hseen p hp => clip_sight_clear hs hpad src dst hc hsrc hw hseen hp,
    clip_visible_or_grazes hs hpad src dst hc hsrc⟩

/-- An index, padded by nothing, holding one wall across the way from `(1, -1)` to `(1, 1)`. -/
noncomputable def wallAcross : Index ℝ :=
  match (Index.empty 0).addBoundaries [⟨⟨1, -1⟩, ⟨1, 1⟩⟩] with
  | .ok idx => idx
  | .error _ => Index.empty 0

/-- The half from the origin to `(2, 0)`, cut at the wall across it at `x = 1`: the index is one
the program builds, the origin lies on no wall, and the sight to the clipped end is clear. -/
theorem target_line_end_clear_of_wall_across :
    wallAcross.Reachable ∧ (0 : ℝ) < 0.05 ∧ (∀ w ∈ wallAcross.walls, ¬ w.segment.HasPoint ⟨0, 0⟩) ∧
      (∀ w ∈ wallAcross.walls,
          tolerance ≤ |((⟨2, 0⟩ : Vec ℝ) - ⟨0, 0⟩).cross (w.segment.b - w.segment.a)| →
          ∀ p, (⟨⟨0, 0⟩, clip (some wallAcross) ⟨0, 0⟩ ⟨2, 0⟩ 0.05⟩ : Segment ℝ).HasPoint p →
            ¬ w.segment.HasPoint p) ∧
        (wallAcross.visible ⟨0, 0⟩ (clip (some wallAcross) ⟨0, 0⟩ ⟨2, 0⟩ 0.05) = true ∨
          ∃ w ∈ wallAcross.walls,
            |((⟨2, 0⟩ : Vec ℝ) - ⟨0, 0⟩).cross (w.segment.b - w.segment.a)| < tolerance ∨
              (⟨⟨0, 0⟩, clip (some wallAcross) ⟨0, 0⟩ ⟨2, 0⟩ 0.05⟩ : Segment ℝ).Grazes
                w.segment) := by
  have hadd : (Index.empty (0 : ℝ)).addBoundaries [⟨⟨1, -1⟩, ⟨1, 1⟩⟩] = .ok wallAcross := rfl
  have hidx : wallAcross.Reachable := .addBoundaries _ (.empty 0) hadd
  have hwalls : wallAcross.walls.map (·.segment) =
      [(⟨⟨1, -1⟩, ⟨1, 1⟩⟩ : Segment ℝ).canonical] := rfl
  -- the one wall lies on the line `x = 1`, whichever way it is stored
  have hsrc : ∀ w ∈ wallAcross.walls, ¬ w.segment.HasPoint ⟨0, 0⟩ := by
    rintro w hw ⟨t, -, -, h⟩
    have hseg : w.segment = (⟨⟨1, -1⟩, ⟨1, 1⟩⟩ : Segment ℝ).canonical := by
      simpa [hwalls] using List.mem_map_of_mem (f := (·.segment)) hw
    have hx := congrArg Vec.x h
    rw [hseg] at hx
    unfold Segment.canonical at hx
    split_ifs at hx <;> simp at hx
  exact ⟨hidx, by norm_num, hsrc,
    (target_line_ends_clear_of_walls wallAcross hidx ⟨0, 0⟩ ⟨2, 0⟩ (by norm_num) hsrc).2⟩

end Route

end CrowdSim
