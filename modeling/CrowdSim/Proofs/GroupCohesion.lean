import Mathlib
import CrowdSim.Proofs.RealPlane
import CrowdSim.Force.Model

/-!
# The group force never pushes a member away from its centroid

The group force on a moving member is built from three parts: a penalty against the velocity
when the centroid lies outside the field of view, an attraction along the line to the centroid,
and a repulsion from every mate inside the comfort distance. Over exact numbers the first two
never point away from the centroid:

* the penalty is the velocity scaled by `-β₁ (α - fov)`, and it is applied only when the angle
  `α` between the velocity and the centroid exceeds the field of view; with a field of view of
  at least a right angle the velocity then points away from the centroid
  (`Vec.dot_neg_of_angleBetween_gt`), so the penalty points toward it;
* the attraction is a nonnegative multiple of the direction to the centroid.

So when no mate is closer than the comfort distance, the group force has a nonnegative
component toward the centroid (`ForceModel.groupTerm_toward_centroid`). The repulsion from a
close mate is the only part that can point away.
-/

namespace CrowdSim

open Real

namespace Vec

@[simp] theorem dot_add (u v w : Vec ℝ) : (u + v).dot w = u.dot w + v.dot w := by
  simp only [Vec.dot, add_x, add_y]
  ring

@[simp] theorem dot_scale (v w : Vec ℝ) (k : ℝ) : (v.scale k).dot w = k * v.dot w := by
  simp only [Vec.dot, scale_x, scale_y]
  ring

@[simp] theorem zero_dot (w : Vec ℝ) : (0 : Vec ℝ).dot w = 0 := by
  simp [Vec.dot]

theorem dot_self_nonneg (v : Vec ℝ) : 0 ≤ v.dot v :=
  add_nonneg (mul_self_nonneg v.x) (mul_self_nonneg v.y)

theorem length_nonneg (v : Vec ℝ) : 0 ≤ v.length := Real.sqrt_nonneg _

/-- An angle between two vectors beyond a right angle means they point away from each other:
the clamped cosine whose inverse cosine exceeds `π / 2` is negative, and so is the cosine
before clamping, whose sign is that of the dot product. -/
theorem dot_neg_of_angleBetween_gt {a b : Vec ℝ} (h : π / 2 < a.angleBetween b) : a.dot b < 0 := by
  unfold Vec.angleBetween at h
  dsimp only at h
  split_ifs at h with hshort hhi hlo
  · -- both vectors too short: the angle is zero
    norm_num at h
    linarith [Real.pi_pos]
  all_goals
    have hlen : 0 < a.length * b.length := by
      simp only [Bool.or_eq_true, decide_eq_true_eq, not_or, not_lt] at hshort
      exact mul_pos (tolerance_pos.trans_le hshort.1) (tolerance_pos.trans_le hshort.2)
    have hcos := Real.arccos_le_pi_div_two.not.mp (not_le.mpr h)
  · -- clamped to one: the inverse cosine is zero
    norm_num at hcos
  · -- clamped to minus one: the cosine was already negative
    have hneg : a.dot b / (a.length * b.length) < 0 := by linarith
    exact ((div_neg_iff.mp hneg).resolve_left fun h' => absurd hlen (not_lt.mpr h'.2.le)).1
  · have hneg : a.dot b / (a.length * b.length) < 0 := not_le.mp hcos
    exact ((div_neg_iff.mp hneg).resolve_left fun h' => absurd hlen (not_lt.mpr h'.2.le)).1

end Vec

namespace ForceModel

/-- A fold whose steps all leave the accumulator as it is returns it. -/
theorem foldl_eq_of_forall_mem {α β : Type} {g : β → α → β} {b : β} :
    ∀ {l : List α}, (∀ a ∈ l, g b a = b) → l.foldl g b = b
  | [], _ => rfl
  | a :: l, h => by
    rw [List.foldl_cons, h a List.mem_cons_self]
    exact foldl_eq_of_forall_mem fun x hx => h x (List.mem_cons_of_mem a hx)

/-- The field-of-view penalty points toward the centroid: it pushes against a velocity that
points away from it. -/
theorem penalty_toward_centroid {v c : Vec ℝ} {fov β₁ : ℝ} (hfov : π / 2 ≤ fov) (hβ : 0 ≤ β₁)
    (hα : fov < v.angleBetween c) : 0 ≤ (v.scale (-β₁ * (v.angleBetween c - fov))).dot c := by
  have hdot : v.dot c < 0 := Vec.dot_neg_of_angleBetween_gt (hfov.trans_lt hα)
  have hgap : 0 ≤ β₁ * (v.angleBetween c - fov) := mul_nonneg hβ (sub_nonneg.mpr hα.le)
  rw [Vec.dot_scale]
  nlinarith

/-- The attraction is a nonnegative multiple of the direction to the centroid. -/
theorem attraction_toward_centroid (c : Vec ℝ) {β₂ : ℝ} (hβ : 0 ≤ β₂) :
    0 ≤ (c.scale (β₂ / c.length)).dot c := by
  rw [Vec.dot_scale]
  exact mul_nonneg (div_nonneg hβ c.length_nonneg) c.dot_self_nonneg

/-- **With no mate too close, the group force has a nonnegative component toward the
centroid.** Over exact numbers, for every subject and every force model whose field of view is
at least a right angle and whose penalty and attraction strengths `β₁`, `β₂` are not negative,
when every mate lies at least the comfort distance away, the group force dotted with the vector
from the position to the centroid is not negative. -/
theorem groupTerm_toward_centroid (m : ForceModel ℝ) (s : Subject ℝ)
    (hfov : π / 2 ≤ m.params.group.fieldOfView) (hβ₁ : 0 ≤ m.params.group.beta1)
    (hβ₂ : 0 ≤ m.params.group.beta2)
    (hmates : ∀ mate ∈ s.group.mates, m.params.group.comfortDistance ≤ s.position.dist mate) :
    0 ≤ (m.groupTerm s).dot (s.group.centroid - s.position) := by
  unfold groupTerm
  dsimp only
  -- every mate is skipped by its first test, so only the penalty and the attraction remain
  rw [foldl_eq_of_forall_mem]
  swap
  · intro mate hm
    exact if_pos (by simpa using hmates mate hm)
  split_ifs with hstill hfar hthreshold hα hα' <;>
    simp only [Vec.zero_eq, zero_add, Vec.dot_add, Vec.zero_dot, le_refl]
  · exact add_nonneg (penalty_toward_centroid hfov hβ₁ hα) (attraction_toward_centroid _ hβ₂)
  · exact attraction_toward_centroid _ hβ₂
  · exact penalty_toward_centroid hfov hβ₁ hα'

/-- Two members three metres apart walking side by side, under the default constants (a field
of view of a right angle): the far mate is outside the comfort distance. -/
theorem groupTerm_toward_centroid_side_by_side :
    (π / 2 ≤ (π / 2 : ℝ) ∧ (0 : ℝ) ≤ 4 ∧ (0 : ℝ) ≤ 3 ∧
        ∀ mate ∈ [(⟨3, 0⟩ : Vec ℝ)], (0.8 : ℝ) ≤ (⟨0, 0⟩ : Vec ℝ).dist mate) ∧
      0 ≤ ((⟨⟨0.5, 2, 0.3, 3, 0.2, 0.3, 10, 0.1, 0.25, 0.01, ⟨π / 2, 4, 3, 1, 0.8⟩⟩, 0, 0⟩ :
          ForceModel ℝ).groupTerm
            ⟨1, 1, ⟨0, 0⟩, ⟨0, 1⟩, ⟨0, 1⟩, 1.3, 1.8, 0, ⟨2, ⟨1.5, 0⟩, [⟨3, 0⟩]⟩⟩).dot
        (⟨1.5, 0⟩ - ⟨0, 0⟩) := by
  have hmates : ∀ mate ∈ [(⟨3, 0⟩ : Vec ℝ)], (0.8 : ℝ) ≤ (⟨0, 0⟩ : Vec ℝ).dist mate := by
    intro mate hm
    rw [List.mem_singleton] at hm
    subst hm
    rw [Vec.dist_real, Real.le_sqrt (by norm_num) (by positivity)]
    norm_num
  have hparams : π / 2 ≤ (π / 2 : ℝ) ∧ (0 : ℝ) ≤ 4 ∧ (0 : ℝ) ≤ 3 := ⟨le_rfl, by norm_num, by norm_num⟩
  exact ⟨⟨hparams.1, hparams.2.1, hparams.2.2, hmates⟩,
    groupTerm_toward_centroid _ _ hparams.1 hparams.2.1 hparams.2.2 hmates⟩

end ForceModel

end CrowdSim
