import Mathlib
import CrowdSim.Proofs.RealPlane
import CrowdSim.Force.Params

/-!
# What the force cutoffs leave out

The model skips a neighbour farther than `maxPedestrianDistance` and a wall farther than
`maxBoundaryDistance`. Each cutoff is the distance beyond which a repulsion
`A · e ^ ((c - d) / B)` falls below the least force: `c + B · ln (A / minForce)`, or the contact
distance `c` when `A` is not above `minForce`. Read over exact numbers:

* `validate_eq_none_iff`: the parameter sets `validate` accepts are those with positive
  relaxation time, ranges (the anisotropic one only when its strength is set) and least force, a
  weight from behind in `[0, 1]` and a radius that is not negative (`Valid`);
* `abs_mul_exp_lt_of_cutoff_lt`: beyond the cutoff of `|A|` the repulsion of strength `A` is
  weaker than the least force, whatever the sign of `A`;
* `skipped_interactions_below_min_force`: every pedestrian interaction that the model skips by
  distance is weaker than the least force when the isotropic strength is not below
  `-minForce`, and the anisotropic one always (its cutoff takes the magnitude of the strength);
  every skipped wall is weaker when the wall strength is not below `-minForce`.

The isotropic and wall cutoffs take the strength with its sign: a strength below `-minForce`
counts as weaker than the least force and is cut at contact, though its pull is stronger
(`attracting_interactions_pass_cutoff`).
-/

namespace CrowdSim

namespace ForceParams

/-! ## Accepted parameter sets -/

/-- The parameter sets `validate` accepts, over exact numbers. -/
structure Valid (p : ForceParams ℝ) : Prop where
  tau_pos : 0 < p.tau
  b2_pos : 0 < p.b2
  b1_pos : p.a1 ≠ 0 → 0 < p.b1
  boundaryB_pos : 0 < p.boundaryB
  lambda_nonneg : 0 ≤ p.lambda
  lambda_le_one : p.lambda ≤ 1
  radius_nonneg : 0 ≤ p.radius
  minForce_pos : 0 < p.minForce

/-- **What `validate` accepts.** It names no error exactly when every range and time constant is
usable. -/
theorem validate_eq_none_iff (p : ForceParams ℝ) : p.validate = none ↔ p.Valid := by
  have h : p.validate = none ↔ 0 < p.tau ∧ 0 < p.b2 ∧ (p.a1 ≠ 0 → 0 < p.b1) ∧
      0 < p.boundaryB ∧ 0 ≤ p.lambda ∧ p.lambda ≤ 1 ∧ 0 ≤ p.radius ∧ 0 < p.minForce := by
    unfold validate
    norm_num
    -- each check fails or passes on its own condition
    split_ifs <;> simp only [false_iff, true_iff] <;> grind
  rw [h]
  constructor
  · rintro ⟨h1, h2, h3, h4, h5, h6, h7, h8⟩
    exact ⟨h1, h2, h3, h4, h5, h6, h7, h8⟩
  · intro v
    exact ⟨v.tau_pos, v.b2_pos, v.b1_pos, v.boundaryB_pos, v.lambda_nonneg, v.lambda_le_one,
      v.radius_nonneg, v.minForce_pos⟩

/-! ## One cutoff -/

theorem cutoff_real (A rng c m : ℝ) :
    cutoff A rng c m = if A ≤ m then c else c + rng * Real.log (A / m) := rfl

/-- A strength no stronger than the least force is cut at contact. -/
theorem cutoff_of_le {A rng c m : ℝ} (h : A ≤ m) : cutoff A rng c m = c := by
  rw [cutoff_real, if_pos h]

/-- A strength not below `-m` has the cutoff of its magnitude: a negative one is cut at contact
either way. -/
theorem cutoff_abs_of_neg_le {A rng c m : ℝ} (hA : -m ≤ A) :
    cutoff |A| rng c m = cutoff A rng c m := by
  rcases le_or_gt 0 A with h | h
  · rw [abs_of_nonneg h]
  · have habs : |A| ≤ m := by rw [abs_of_neg h]; linarith
    rw [cutoff_of_le habs, cutoff_of_le (by linarith)]

/-- **Beyond its cutoff a repulsion is weaker than the least force.** Past the cutoff of `|A|`,
the push `A · e ^ ((c - d) / rng)` has magnitude below `m`. -/
theorem abs_mul_exp_lt_of_cutoff_lt {A rng c m d : ℝ} (hrng : 0 < rng) (hm : 0 < m)
    (hd : cutoff |A| rng c m < d) : |A * Real.exp ((c - d) / rng)| < m := by
  rw [abs_mul, abs_of_pos (Real.exp_pos _)]
  rw [cutoff_real] at hd
  split_ifs at hd with hA
  · -- a strength at most `m` has decayed below it once contact is passed
    have hexp : Real.exp ((c - d) / rng) < 1 :=
      Real.exp_lt_one_iff.mpr (div_neg_of_neg_of_pos (by linarith) hrng)
    calc |A| * Real.exp ((c - d) / rng)
        ≤ m * Real.exp ((c - d) / rng) := mul_le_mul_of_nonneg_right hA (Real.exp_pos _).le
      _ < m * 1 := mul_lt_mul_of_pos_left hexp hm
      _ = m := mul_one m
  · -- a stronger one has decayed past the factor `m / |A|`
    have hApos : 0 < |A| := hm.trans (not_le.mp hA)
    have hlog : Real.log (m / |A|) = -Real.log (|A| / m) := by rw [← Real.log_inv, inv_div]
    have hexp : Real.exp ((c - d) / rng) < m / |A| := by
      rw [← Real.exp_log (div_pos hm hApos), Real.exp_lt_exp, hlog, div_lt_iff₀ hrng]
      linarith
    calc |A| * Real.exp ((c - d) / rng)
        < |A| * (m / |A|) := mul_lt_mul_of_pos_left hexp hApos
      _ = m := mul_div_cancel₀ m hApos.ne'

/-! ## The two cutoffs of a parameter set -/

/-- The isotropic strength's own cutoff is within the pedestrian cutoff. -/
theorem cutoff_a2_le_maxPedestrianDistance (p : ForceParams ℝ) :
    cutoff p.a2 p.b2 (2.0 * p.radius) p.minForce ≤ p.maxPedestrianDistance := by
  unfold maxPedestrianDistance
  split
  · exact le_max_left _ _
  · exact le_rfl

/-- With the anisotropic term on, the cutoff of its magnitude is within the pedestrian cutoff. -/
theorem cutoff_a1_le_maxPedestrianDistance (p : ForceParams ℝ) (ha1 : p.a1 ≠ 0) :
    cutoff |p.a1| p.b1 (2.0 * p.radius) p.minForce ≤ p.maxPedestrianDistance := by
  have hon : (p.a1 != 0.0) = true := by norm_num [ha1]
  unfold maxPedestrianDistance
  rw [if_pos hon]
  exact le_max_right _ _

/-- An anisotropy weight in `[λ, 1]` with `λ ≥ 0` scales a push down, never up. -/
theorem abs_mul_weight_lt {x w m lambda : ℝ} (hx : |x| < m) (hl : 0 ≤ lambda)
    (hw : w ∈ Set.Icc lambda 1) : |x * w| < m := by
  have hw1 : |w| ≤ 1 := abs_le.mpr ⟨by linarith [hw.1], hw.2⟩
  calc |x * w| = |x| * |w| := abs_mul x w
    _ ≤ |x| * 1 := mul_le_mul_of_nonneg_left hw1 (abs_nonneg x)
    _ = |x| := mul_one _
    _ < m := hx

/-- **Every interaction skipped by distance is weaker than the least force**, over exact
numbers, for every parameter set `validate` accepts and every distance `d`: beyond the pedestrian
cutoff the isotropic push has magnitude below `minForce` when its strength is not below
`-minForce`, and the anisotropic push, for every weight in `[λ, 1]`, whenever it is on; beyond the
boundary cutoff the wall push is below `minForce` when its strength is not below `-minForce`. -/
theorem skipped_interactions_below_min_force (p : ForceParams ℝ) (hp : p.validate = none)
    (d : ℝ) :
    (p.maxPedestrianDistance < d →
      (-p.minForce ≤ p.a2 → |p.a2 * Real.exp ((2 * p.radius - d) / p.b2)| < p.minForce) ∧
      (p.a1 ≠ 0 → ∀ w ∈ Set.Icc p.lambda 1,
        |p.a1 * Real.exp ((2 * p.radius - d) / p.b1) * w| < p.minForce)) ∧
    (p.maxBoundaryDistance < d → -p.minForce ≤ p.boundaryA →
      |p.boundaryA * Real.exp ((p.radius - d) / p.boundaryB)| < p.minForce) := by
  have hv := (validate_eq_none_iff p).mp hp
  -- the cutoffs measure contact as `2.0 * radius`
  have hcontact : (2.0 : ℝ) * p.radius = 2 * p.radius := by norm_num
  refine ⟨fun hd => ⟨fun ha2 => ?isotropic, fun ha1 w hw => ?anisotropic⟩, fun hd hA => ?wall⟩
  case isotropic =>
    have hcut : cutoff |p.a2| p.b2 (2.0 * p.radius) p.minForce < d := by
      rw [cutoff_abs_of_neg_le ha2]
      exact (cutoff_a2_le_maxPedestrianDistance p).trans_lt hd
    rw [← hcontact]
    exact abs_mul_exp_lt_of_cutoff_lt hv.b2_pos hv.minForce_pos hcut
  case anisotropic =>
    have hcut := (cutoff_a1_le_maxPedestrianDistance p ha1).trans_lt hd
    rw [← hcontact]
    exact abs_mul_weight_lt (abs_mul_exp_lt_of_cutoff_lt (hv.b1_pos ha1) hv.minForce_pos hcut)
      hv.lambda_nonneg hw
  case wall =>
    have hcut : cutoff |p.boundaryA| p.boundaryB p.radius p.minForce < d := by
      rw [cutoff_abs_of_neg_le hA]
      exact hd
    exact abs_mul_exp_lt_of_cutoff_lt hv.boundaryB_pos hv.minForce_pos hcut

/-- The default constants, read as exact numbers. -/
noncomputable def defaultReal : ForceParams ℝ :=
  ⟨0.5, 2.0, 0.3, 3.0, 0.2, 0.3, 10.0, 0.1, 0.25, 0.01, ⟨1.5707963267948966, 4.0, 3.0, 1.0, 0.8⟩⟩

/-- The default constants pass `validate`, and three metres out every skipped interaction is
weaker than the least force. -/
theorem skipped_interactions_below_min_force_by_default :
    defaultReal.validate = none ∧
      ((defaultReal.maxPedestrianDistance < 3 →
        (-defaultReal.minForce ≤ defaultReal.a2 →
          |defaultReal.a2 * Real.exp ((2 * defaultReal.radius - 3) / defaultReal.b2)| <
            defaultReal.minForce) ∧
        (defaultReal.a1 ≠ 0 → ∀ w ∈ Set.Icc defaultReal.lambda 1,
          |defaultReal.a1 * Real.exp ((2 * defaultReal.radius - 3) / defaultReal.b1) * w| <
            defaultReal.minForce)) ∧
      (defaultReal.maxBoundaryDistance < 3 → -defaultReal.minForce ≤ defaultReal.boundaryA →
        |defaultReal.boundaryA * Real.exp ((defaultReal.radius - 3) / defaultReal.boundaryB)| <
          defaultReal.minForce)) := by
  have hv : defaultReal.validate = none := by
    rw [validate_eq_none_iff]
    constructor <;> norm_num [defaultReal]
  exact ⟨hv, skipped_interactions_below_min_force defaultReal hv 3⟩

/-! ## Attracting strengths -/

/-- The default constants with the anisotropic term off and both the isotropic and the wall
strength at `-1`, an attraction a hundred times the least force. -/
noncomputable def attracting : ForceParams ℝ :=
  { defaultReal with a1 := 0, a2 := -1, boundaryA := -1 }

/-- **Attracting strengths pass the cutoffs.** A strength below `-minForce` is cut at contact:
with the isotropic and wall strengths at `-1`, a neighbour 0.6 m away lies beyond the pedestrian
cutoff of 0.5 m and a wall 0.3 m away beyond the boundary cutoff of 0.25 m, yet both pulls are
stronger than the least force. -/
theorem attracting_interactions_pass_cutoff :
    attracting.validate = none ∧
      attracting.maxPedestrianDistance < 0.6 ∧
      attracting.minForce ≤ |attracting.a2 * Real.exp ((2 * attracting.radius - 0.6) / attracting.b2)| ∧
      attracting.maxBoundaryDistance < 0.3 ∧
      attracting.minForce ≤
        |attracting.boundaryA * Real.exp ((attracting.radius - 0.3) / attracting.boundaryB)| := by
  have hv : attracting.validate = none := by
    rw [validate_eq_none_iff]
    constructor <;> norm_num [attracting, defaultReal]
  -- both pulls have decayed by `e ^ (-1/2)`, which is at least one half
  have hhalf : (1 : ℝ) / 2 ≤ Real.exp (-1 / 2) := by
    have h := Real.add_one_le_exp (-1 / 2 : ℝ)
    linarith
  have hped : attracting.maxPedestrianDistance = 0.5 := by
    norm_num [maxPedestrianDistance, attracting, defaultReal, cutoff_real]
  have hwall : attracting.maxBoundaryDistance = 0.25 := by
    norm_num [maxBoundaryDistance, attracting, defaultReal, cutoff_real]
  refine ⟨hv, by rw [hped]; norm_num, ?_, by rw [hwall]; norm_num, ?_⟩
  · norm_num [attracting, defaultReal]
    linarith
  · norm_num [attracting, defaultReal]
    linarith

end ForceParams

end CrowdSim
