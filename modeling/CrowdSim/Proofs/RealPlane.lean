import Mathlib
import CrowdSim.Space.Index

/-!
# The plane over the reals

Read over `ℝ`, the geometry is exact: `hypot x y` is `√(x² + y²)`, `minOf` and `maxOf` are `min`
and `max`, `exp`, `log` and `acos` are the real functions, and no real number is NaN or infinite.
This module gives that reading and the facts of exact plane geometry that the spatial index's
broad phase rests on:

* `Rect.ofBox_eq`, `Rect.meets_iff`: over the reals a box becomes the rectangle grown by
  `tolerance` on every side, and two rectangles meet exactly when they overlap on both axes;
  so two grown boxes meet exactly when the boxes come within `2 · tolerance` of each other
  (`Rect.meets_ofBox_iff`);
* `Segment.intersects_reverse`: whether two segments meet does not depend on the direction the
  second is given in;
* `Segment.near_of_intersects`: the bounding boxes of two segments that meet come within
  `tolerance` of each other on both axes; a strict crossing has a common point of the two
  segments (`Segment.exists_common_lerp`);
* `Segment.closest_mem_bound`: the nearest point of a segment lies in its bounding box.
-/

namespace CrowdSim

/-- Exact arithmetic. -/
noncomputable instance : Scalar ℝ where
  decLt := inferInstance
  decLe := inferInstance
  abs x := |x|
  hypot x y := √(x ^ 2 + y ^ 2)
  exp := Real.exp
  log := Real.log
  acos := Real.arccos
  minOf := min
  maxOf := max
  isNaN _ := false
  isFinite _ := true
  ofNat n := n

namespace Scalar

@[simp] theorem abs_real (x : ℝ) : Scalar.abs x = |x| := rfl
@[simp] theorem hypot_real (x y : ℝ) : Scalar.hypot x y = √(x ^ 2 + y ^ 2) := rfl
@[simp] theorem exp_real (x : ℝ) : Scalar.exp x = Real.exp x := rfl
@[simp] theorem log_real (x : ℝ) : Scalar.log x = Real.log x := rfl
@[simp] theorem minOf_real (x y : ℝ) : Scalar.minOf x y = min x y := rfl
@[simp] theorem maxOf_real (x y : ℝ) : Scalar.maxOf x y = max x y := rfl
@[simp] theorem isNaN_real (x : ℝ) : Scalar.isNaN x = false := rfl
@[simp] theorem isFinite_real (x : ℝ) : Scalar.isFinite x = true := rfl
@[simp] theorem ofNat_real (n : Nat) : (Scalar.ofNat n : ℝ) = n := rfl

/-- Every real number is below `+∞`. -/
@[simp] theorem belowInfinity_real (x : ℝ) : Scalar.belowInfinity x = true := rfl

end Scalar

theorem tolerance_real : (tolerance : ℝ) = 1e-9 := rfl

theorem tolerance_pos : (0 : ℝ) < tolerance := by
  rw [tolerance_real]
  norm_num

/-! ## Vectors and boxes -/

namespace Vec

@[simp] theorem isNaN_real (v : Vec ℝ) : v.isNaN = false := by
  simp [Vec.isNaN]

@[simp] theorem add_x (v w : Vec ℝ) : (v + w).x = v.x + w.x := rfl
@[simp] theorem add_y (v w : Vec ℝ) : (v + w).y = v.y + w.y := rfl
@[simp] theorem sub_x (v w : Vec ℝ) : (v - w).x = v.x - w.x := rfl
@[simp] theorem sub_y (v w : Vec ℝ) : (v - w).y = v.y - w.y := rfl
@[simp] theorem scale_x (v : Vec ℝ) (s : ℝ) : (v.scale s).x = v.x * s := rfl
@[simp] theorem scale_y (v : Vec ℝ) (s : ℝ) : (v.scale s).y = v.y * s := rfl

theorem dist_real (v w : Vec ℝ) : v.dist w = √((v.x - w.x) ^ 2 + (v.y - w.y) ^ 2) := rfl

theorem dist_nonneg (v w : Vec ℝ) : 0 ≤ v.dist w := Real.sqrt_nonneg _

/-- A distance bounds the difference of the first coordinates. -/
theorem abs_sub_x_le_dist (v w : Vec ℝ) : |v.x - w.x| ≤ v.dist w := by
  rw [dist_real, ← Real.sqrt_sq_eq_abs]
  exact Real.sqrt_le_sqrt (by nlinarith)

/-- A distance bounds the difference of the second coordinates. -/
theorem abs_sub_y_le_dist (v w : Vec ℝ) : |v.y - w.y| ≤ v.dist w := by
  rw [dist_real, ← Real.sqrt_sq_eq_abs]
  exact Real.sqrt_le_sqrt (by nlinarith)

theorem dist_comm (v w : Vec ℝ) : v.dist w = w.dist v := by
  rw [dist_real, dist_real]
  ring_nf

@[simp] theorem length_sub (v w : Vec ℝ) : (v - w).length = v.dist w := rfl

end Vec

attribute [ext] Vec

noncomputable instance : Zero (Vec ℝ) := ⟨Vec.zero⟩

namespace Vec

@[simp] theorem zero_eq : (Vec.zero : Vec ℝ) = 0 := rfl

@[simp] theorem zero_x : (0 : Vec ℝ).x = 0 := by
  show (0.0 : ℝ) = 0
  norm_num

@[simp] theorem zero_y : (0 : Vec ℝ).y = 0 := by
  show (0.0 : ℝ) = 0
  norm_num

end Vec

/-- Vectors of exact numbers add up: the sums of force terms are taken in this monoid. -/
noncomputable instance : AddCommMonoid (Vec ℝ) where
  add := (· + ·)
  add_assoc a b c := Vec.ext (add_assoc a.x b.x c.x) (add_assoc a.y b.y c.y)
  zero_add a := Vec.ext (by simp) (by simp)
  add_zero a := Vec.ext (by simp) (by simp)
  add_comm a b := Vec.ext (add_comm a.x b.x) (add_comm a.y b.y)
  nsmul := nsmulRec

namespace Box

theorem contains_iff (b : Box ℝ) (p : Vec ℝ) :
    b.contains p = true ↔ b.min.x ≤ p.x ∧ p.x ≤ b.max.x ∧ b.min.y ≤ p.y ∧ p.y ≤ b.max.y := by
  simp only [Box.contains, Bool.and_eq_true, Bool.not_eq_true', Bool.or_eq_false_iff,
    decide_eq_false_iff_not, not_lt]
  tauto

/-- Two boxes come within `tolerance` of each other on both axes. -/
def Near (A B : Box ℝ) : Prop :=
  A.min.x ≤ B.max.x + tolerance ∧ B.min.x ≤ A.max.x + tolerance ∧
    A.min.y ≤ B.max.y + tolerance ∧ B.min.y ≤ A.max.y + tolerance

/-- The box is not inverted on either axis. -/
def Ordered (b : Box ℝ) : Prop := b.min.x ≤ b.max.x ∧ b.min.y ≤ b.max.y

theorem ordered_point (p : Vec ℝ) : (Box.point p).Ordered := ⟨le_rfl, le_rfl⟩

theorem contains_point (p : Vec ℝ) : (Box.point p).contains p = true := by
  rw [contains_iff]
  exact ⟨le_rfl, le_rfl, le_rfl, le_rfl⟩

theorem Ordered.pad {b : Box ℝ} (h : b.Ordered) {d : ℝ} (hd : 0 ≤ d) : (b.pad d).Ordered := by
  obtain ⟨hx, hy⟩ := h
  simp only [Box.Ordered, Box.pad]
  constructor <;> linarith

/-- A point of one box that lies within `tolerance` of another box makes the two boxes near. -/
theorem near_of_mem {A B : Box ℝ} {p : Vec ℝ} (hA : A.contains p = true)
    (hB : B.min.x - tolerance ≤ p.x ∧ p.x ≤ B.max.x + tolerance ∧
      B.min.y - tolerance ≤ p.y ∧ p.y ≤ B.max.y + tolerance) : A.Near B := by
  rw [contains_iff] at hA
  obtain ⟨a1, a2, a3, a4⟩ := hA
  obtain ⟨b1, b2, b3, b4⟩ := hB
  refine ⟨?_, ?_, ?_, ?_⟩ <;> linarith

theorem Near.symm {A B : Box ℝ} (h : A.Near B) : B.Near A := by
  obtain ⟨h1, h2, h3, h4⟩ := h
  exact ⟨h2, h1, h4, h3⟩

end Box

/-! ## Rectangles of the tree -/

namespace Rect

/-- A box that is not inverted becomes the rectangle grown by `tolerance` on every side. -/
theorem ofBox_eq {b : Box ℝ} (h : b.Ordered) :
    Rect.ofBox b = ⟨⟨b.min.x - tolerance, b.min.y - tolerance⟩,
      ⟨b.max.x + tolerance, b.max.y + tolerance⟩⟩ := by
  obtain ⟨hx, hy⟩ := h
  have ht := tolerance_pos
  have hwx : ¬ b.max.x - b.min.x + 2.0 * tolerance ≤ (0.0 : ℝ) := by norm_num; linarith
  have hwy : ¬ b.max.y - b.min.y + 2.0 * tolerance ≤ (0.0 : ℝ) := by norm_num; linarith
  simp only [Rect.ofBox, hwx, hwy, if_false]
  congr 2 <;> norm_num <;> ring

/-- Two rectangles meet exactly when they overlap on both axes. -/
theorem meets_iff (e s : Rect ℝ) :
    e.meets s = true ↔ e.lo.x < s.hi.x ∧ s.lo.x < e.hi.x ∧ e.lo.y < s.hi.y ∧ s.lo.y < e.hi.y := by
  simp only [Rect.meets, Bool.and_eq_true, Bool.not_eq_true', Bool.or_eq_false_iff,
    decide_eq_false_iff_not, not_le, and_assoc]

/-- **Grown boxes meet exactly when the boxes come within twice the tolerance of each other.** -/
theorem meets_ofBox_iff {A B : Box ℝ} (hA : A.Ordered) (hB : B.Ordered) :
    (Rect.ofBox A).meets (Rect.ofBox B) = true ↔
      A.min.x < B.max.x + 2 * tolerance ∧ B.min.x < A.max.x + 2 * tolerance ∧
        A.min.y < B.max.y + 2 * tolerance ∧ B.min.y < A.max.y + 2 * tolerance := by
  rw [ofBox_eq hA, ofBox_eq hB, meets_iff]
  constructor <;> rintro ⟨h1, h2, h3, h4⟩ <;> refine ⟨?_, ?_, ?_, ?_⟩ <;> dsimp only at * <;>
    linarith

/-- A wall's box grown by a padding `pad ≥ 0` meets every box that comes within `tolerance` of
the wall's bounding box. -/
theorem meets_of_near {A B : Box ℝ} (hA : A.Ordered) (hB : B.Ordered) {pad : ℝ} (hpad : 0 ≤ pad)
    (h : A.Near B) : (Rect.ofBox (B.pad pad)).meets (Rect.ofBox A) = true := by
  obtain ⟨h1, h2, h3, h4⟩ := h
  have ht := tolerance_pos
  rw [meets_ofBox_iff (hB.pad hpad) hA]
  simp only [Box.pad]
  refine ⟨?_, ?_, ?_, ?_⟩ <;> linarith

theorem meets_comm (e s : Rect ℝ) : e.meets s = s.meets e := by
  apply Bool.eq_iff_iff.mpr
  rw [meets_iff, meets_iff]
  tauto

/-- A point within distance `r` of a point of a box lies in the box grown by `r`, so their
rectangles meet. -/
theorem meets_pad_of_dist_le {B : Box ℝ} (hB : B.Ordered) {c : Vec ℝ} (hc : B.contains c = true)
    {p : Vec ℝ} {r : ℝ} (h : p.dist c ≤ r) :
    (Rect.ofBox (B.pad r)).meets (Rect.ofBox (Box.point p)) = true := by
  have hr : 0 ≤ r := (Vec.dist_nonneg p c).trans h
  have ht := tolerance_pos
  rw [meets_ofBox_iff (hB.pad hr) (Box.ordered_point p)]
  rw [Box.contains_iff] at hc
  obtain ⟨c1, c2, c3, c4⟩ := hc
  obtain ⟨hx1, hx2⟩ := abs_le.mp ((Vec.abs_sub_x_le_dist p c).trans h)
  obtain ⟨hy1, hy2⟩ := abs_le.mp ((Vec.abs_sub_y_le_dist p c).trans h)
  simp only [Box.pad, Box.point]
  refine ⟨?_, ?_, ?_, ?_⟩ <;> linarith

end Rect

/-! ## Segments -/

namespace Segment

theorem bound_min_x (s : Segment ℝ) : s.bound.min.x = min s.a.x s.b.x := rfl
theorem bound_min_y (s : Segment ℝ) : s.bound.min.y = min s.a.y s.b.y := rfl
theorem bound_max_x (s : Segment ℝ) : s.bound.max.x = max s.a.x s.b.x := rfl
theorem bound_max_y (s : Segment ℝ) : s.bound.max.y = max s.a.y s.b.y := rfl

theorem bound_ordered (s : Segment ℝ) : s.bound.Ordered :=
  ⟨(min_le_left _ _).trans (le_max_left _ _), (min_le_left _ _).trans (le_max_left _ _)⟩

/-- A point of the segment between its ends lies between the ends' coordinates. -/
theorem lerp_between {a b t : ℝ} (h0 : 0 ≤ t) (h1 : t ≤ 1) :
    min a b ≤ a + (b - a) * t ∧ a + (b - a) * t ≤ max a b := by
  rcases le_total a b with hab | hab
  · rw [min_eq_left hab, max_eq_right hab]
    constructor <;> nlinarith
  · rw [min_eq_right hab, max_eq_left hab]
    constructor <;> nlinarith

/-- The point a fraction `t ∈ [0, 1]` of the way from `a` to `b` lies in the bounding box. -/
theorem bound_contains_lerp (s : Segment ℝ) {t : ℝ} (h0 : 0 ≤ t) (h1 : t ≤ 1) :
    s.bound.contains (s.a + (s.b - s.a).scale t) = true := by
  obtain ⟨hx0, hx1⟩ := lerp_between (a := s.a.x) (b := s.b.x) h0 h1
  obtain ⟨hy0, hy1⟩ := lerp_between (a := s.a.y) (b := s.b.y) h0 h1
  rw [Box.contains_iff]
  simp only [bound_min_x, bound_min_y, bound_max_x, bound_max_y, Vec.add_x, Vec.add_y,
    Vec.scale_x, Vec.scale_y, Vec.sub_x, Vec.sub_y]
  exact ⟨hx0, hx1, hy0, hy1⟩

theorem bound_contains_a (s : Segment ℝ) : s.bound.contains s.a = true := by
  rw [Box.contains_iff, bound_min_x, bound_min_y, bound_max_x, bound_max_y]
  exact ⟨min_le_left _ _, le_max_left _ _, min_le_left _ _, le_max_left _ _⟩

theorem bound_contains_b (s : Segment ℝ) : s.bound.contains s.b = true := by
  rw [Box.contains_iff, bound_min_x, bound_min_y, bound_max_x, bound_max_y]
  exact ⟨min_le_right _ _, le_max_right _ _, min_le_right _ _, le_max_right _ _⟩

/-- **The nearest point of a segment lies in its bounding box.** -/
theorem closest_mem_bound (s : Segment ℝ) (p : Vec ℝ) : s.bound.contains (s.closest p) = true := by
  simp only [Segment.closest]
  split
  · exact s.bound_contains_a
  · split
    · exact s.bound_contains_a
    · split
      · exact s.bound_contains_b
      · rename_i h0 h1
        exact s.bound_contains_lerp (by norm_num at h0; linarith) (by norm_num at h1; linarith)

theorem orient_real (a b c : Vec ℝ) :
    orient a b c = (b.x - a.x) * (c.y - a.y) - (b.y - a.y) * (c.x - a.x) := rfl

theorem withinSpan_iff (a b p : Vec ℝ) :
    withinSpan a b p = true ↔
      min a.x b.x - tolerance ≤ p.x ∧ p.x ≤ max a.x b.x + tolerance ∧
        min a.y b.y - tolerance ≤ p.y ∧ p.y ≤ max a.y b.y + tolerance := by
  simp only [withinSpan, Bool.and_eq_true, decide_eq_true_eq, Scalar.minOf_real,
    Scalar.maxOf_real, and_assoc]

theorem withinSpan_comm (a b p : Vec ℝ) : withinSpan b a p = withinSpan a b p := by
  simp only [withinSpan, Scalar.minOf_real, Scalar.maxOf_real, min_comm b.x, max_comm b.x,
    min_comm b.y, max_comm b.y]

/-- The two orientations lie strictly on opposite sides, by more than `tolerance`. -/
def Apart (u v : ℝ) : Prop := (tolerance < u ∧ v < -tolerance) ∨ (u < -tolerance ∧ tolerance < v)

theorem apart_neg {u v : ℝ} : Apart (-u) (-v) ↔ Apart u v := by
  unfold Apart
  constructor <;> rintro (⟨h1, h2⟩ | ⟨h1, h2⟩)
  all_goals first | exact Or.inl ⟨by linarith, by linarith⟩ | exact Or.inr ⟨by linarith, by linarith⟩

theorem apart_comm {u v : ℝ} : Apart v u ↔ Apart u v := by
  unfold Apart
  tauto

/-- Opposite sides mean orientations of opposite signs. -/
theorem Apart.mul_neg {u v : ℝ} (h : Apart u v) : u * v < 0 := by
  have ht := tolerance_pos
  rcases h with ⟨h1, h2⟩ | ⟨h1, h2⟩ <;> nlinarith

/-- The test of two segments as the statement it decides: both pairs of ends strictly apart, or
an end within `tolerance` of the other segment's line and box. -/
theorem intersects_iff (s o : Segment ℝ) :
    s.intersects o = true ↔
      (Apart (orient o.a o.b s.a) (orient o.a o.b s.b) ∧
          Apart (orient s.a s.b o.a) (orient s.a s.b o.b)) ∨
        (|orient o.a o.b s.a| ≤ tolerance ∧ withinSpan o.a o.b s.a = true) ∨
        (|orient o.a o.b s.b| ≤ tolerance ∧ withinSpan o.a o.b s.b = true) ∨
        (|orient s.a s.b o.a| ≤ tolerance ∧ withinSpan s.a s.b o.a = true) ∨
        (|orient s.a s.b o.b| ≤ tolerance ∧ withinSpan s.a s.b o.b = true) := by
  simp only [Segment.intersects, Apart, Bool.or_eq_true, Bool.and_eq_true, decide_eq_true_eq,
    Scalar.abs_real, gt_iff_lt, or_assoc]

/-- **Meeting does not depend on the direction of the second segment**: reversing it negates the
two orientations of the first segment's ends and swaps the other two. -/
theorem intersects_reverse (s o : Segment ℝ) : s.intersects ⟨o.b, o.a⟩ = s.intersects o := by
  have h1 : orient o.b o.a s.a = -orient o.a o.b s.a := by simp only [orient_real]; ring
  have h2 : orient o.b o.a s.b = -orient o.a o.b s.b := by simp only [orient_real]; ring
  apply Bool.eq_iff_iff.mpr
  rw [intersects_iff, intersects_iff]
  dsimp only
  rw [h1, h2, apart_neg, abs_neg, abs_neg, withinSpan_comm o.b o.a, withinSpan_comm o.b o.a,
    apart_comm (u := orient s.a s.b o.a)]
  tauto

/-- Storing a wall in canonical direction does not change which sight lines meet it. -/
theorem intersects_canonical (s o : Segment ℝ) : s.intersects o.canonical = s.intersects o := by
  unfold Segment.canonical
  split
  · exact intersects_reverse s o
  · rfl

/-- **Strict crossings meet in a point.** When the ends of each segment lie strictly on opposite
sides of the other's line, the point a fraction `d₁ / (d₁ - d₂)` along the first segment is also
a fraction `d₃ / (d₃ - d₄)` along the second. -/
theorem exists_common_lerp (s o : Segment ℝ)
    (h12 : orient o.a o.b s.a * orient o.a o.b s.b < 0)
    (h34 : orient s.a s.b o.a * orient s.a s.b o.b < 0) :
    ∃ t u, 0 ≤ t ∧ t ≤ 1 ∧ 0 ≤ u ∧ u ≤ 1 ∧
      s.a + (s.b - s.a).scale t = o.a + (o.b - o.a).scale u := by
  set d1 := orient o.a o.b s.a with hd1
  set d2 := orient o.a o.b s.b with hd2
  set d3 := orient s.a s.b o.a with hd3
  set d4 := orient s.a s.b o.b with hd4
  -- opposite signs put both fractions strictly inside `(0, 1)`
  have frac_mem : ∀ u v : ℝ, u * v < 0 → 0 ≤ u / (u - v) ∧ u / (u - v) ≤ 1 := by
    intro u v huv
    have huv' : u - v ≠ 0 := by
      intro h
      rw [show v = u by linarith] at huv
      exact absurd huv (not_lt.mpr (mul_self_nonneg u))
    rcases lt_or_gt_of_ne huv' with h | h
    · constructor
      · exact div_nonneg_of_nonpos (by nlinarith) h.le
      · rw [div_le_one_of_neg h]; nlinarith
    · constructor
      · exact div_nonneg (by nlinarith) h.le
      · rw [div_le_one h]; nlinarith
  obtain ⟨ht0, ht1⟩ := frac_mem d1 d2 h12
  obtain ⟨hu0, hu1⟩ := frac_mem d3 d4 h34
  refine ⟨d1 / (d1 - d2), d3 / (d3 - d4), ht0, ht1, hu0, hu1, ?_⟩
  have hD : d1 - d2 ≠ 0 := by
    intro h
    rw [show d2 = d1 by linarith] at h12
    exact absurd h12 (not_lt.mpr (mul_self_nonneg d1))
  have hD' : d3 - d4 = -(d1 - d2) := by simp only [hd1, hd2, hd3, hd4, orient_real]; ring
  have hE : d3 - d4 ≠ 0 := by rw [hD']; exact neg_ne_zero.mpr hD
  -- the same point, read along the second segment
  refine Vec.ext ?_ ?_
  · simp only [Vec.add_x, Vec.scale_x, Vec.sub_x]
    rw [hD']
    field_simp
    simp only [hd1, hd2, hd3, orient_real]
    ring
  · simp only [Vec.add_y, Vec.scale_y, Vec.sub_y]
    rw [hD']
    field_simp
    simp only [hd1, hd2, hd3, orient_real]
    ring

/-- So they have a point in both bounding boxes. -/
theorem exists_common_point (s o : Segment ℝ)
    (h12 : orient o.a o.b s.a * orient o.a o.b s.b < 0)
    (h34 : orient s.a s.b o.a * orient s.a s.b o.b < 0) :
    ∃ p, s.bound.contains p = true ∧ o.bound.contains p = true := by
  obtain ⟨t, u, ht0, ht1, hu0, hu1, hp⟩ := exists_common_lerp s o h12 h34
  exact ⟨_, s.bound_contains_lerp ht0 ht1, hp ▸ o.bound_contains_lerp hu0 hu1⟩

/-- **Segments that meet have near bounding boxes.** A strict crossing shares a point; a touching
end lies within `tolerance` of the other segment's box. -/
theorem near_of_intersects (s o : Segment ℝ) (h : s.intersects o = true) :
    Box.Near s.bound o.bound := by
  rw [intersects_iff] at h
  rcases h with ⟨h12, h34⟩ | ⟨-, hw⟩ | ⟨-, hw⟩ | ⟨-, hw⟩ | ⟨-, hw⟩
  · have ht := tolerance_pos
    obtain ⟨p, hs, ho⟩ := exists_common_point s o h12.mul_neg h34.mul_neg
    rw [Box.contains_iff] at ho
    exact Box.near_of_mem hs ⟨by linarith, by linarith, by linarith, by linarith⟩
  · rw [withinSpan_iff] at hw
    exact Box.near_of_mem s.bound_contains_a hw
  · rw [withinSpan_iff] at hw
    exact Box.near_of_mem s.bound_contains_b hw
  · rw [withinSpan_iff] at hw
    exact Box.Near.symm (Box.near_of_mem o.bound_contains_a hw)
  · rw [withinSpan_iff] at hw
    exact Box.Near.symm (Box.near_of_mem o.bound_contains_b hw)

end Segment

end CrowdSim
