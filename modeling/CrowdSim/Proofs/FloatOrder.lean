import Mathlib

/-!
# The order of doubles

Comparisons of doubles decide by the sign, then the exponent, then the mantissa, the last two
read the other way for negative numbers; a NaN compares with nothing. This module gives each
unpacked double a key in `Int × Int × Int` on which that order is the lexicographic one
(`orderKey`), and from it the transitivity that a sorted list of doubles needs:

* `unpacked_lt_iff`, `unpacked_le_iff`: strict order and order of unpacked doubles through the
  keys;
* `float_lt_of_le_of_lt`, `float_le_trans`: a double at most a second one that is below a third is
  below the third, and `≤` is transitive (though not reflexive, by NaN);
* `float_le_of_not_lt`: away from NaN the order is total, so a double not below another is at
  least the other;
* `float_lt_trans`, `float_not_le_of_lt`, `float_isNaN_of_lt`: the strict order is transitive
  and excludes the reverse order, and a double below another is not NaN;
* `float_le_refl`, `float_isNaN_of_le`, `float_lt_of_not_le`: away from NaN the order is
  reflexive, a comparison that holds is between numbers, and a double another is not at most is
  below it;
* `unpacked_beq_iff`: equality of doubles is equality of keys away from NaN, so it is symmetric and
  transitive, reflexive away from NaN, respected by the order (`float_lt_congr`), and total with
  it (`float_beq_of_not_lt`).
-/

namespace CrowdSim

open Float.Model Float.Model.UnpackedFloat

/-- Where an unpacked double stands in the order that `compare` decides: a rank for its kind and
sign, then its exponent and mantissa, both negated for a negative number. -/
def orderKey : UnpackedFloat → Int × Int × Int
  | .infinity .negative => (-2, 0, 0)
  | .finite .negative m e _ => (-1, -e, -(m : Int))
  | .zero _ => (0, 0, 0)
  | .finite .positive m e _ => (1, e, m)
  | .infinity .positive => (2, 0, 0)
  | .notANumber => (0, 0, 0)

/-- The lexicographic order on keys. -/
def KeyLt (x y : Int × Int × Int) : Prop :=
  x.1 < y.1 ∨ (x.1 = y.1 ∧ (x.2.1 < y.2.1 ∨ (x.2.1 = y.2.1 ∧ x.2.2 < y.2.2)))

theorem keyLt_trans {x y z : Int × Int × Int} (h1 : KeyLt x y) (h2 : KeyLt y z) : KeyLt x z := by
  unfold KeyLt at *
  omega

theorem sign_compare_neg_pos : compare Sign.negative Sign.positive = .lt := rfl
theorem sign_compare_pos_neg : compare Sign.positive Sign.negative = .gt := rfl
theorem sign_compare_neg_neg : compare Sign.negative Sign.negative = .eq := rfl
theorem sign_compare_pos_pos : compare Sign.positive Sign.positive = .eq := rfl

/-! ## Unpacked doubles -/

/-- **Strict order of unpacked doubles.** Below is lexicographic order on the keys, and NaN is
below nothing. -/
theorem unpacked_lt_iff (a b : UnpackedFloat) :
    a.lt b = true ↔ a ≠ .notANumber ∧ b ≠ .notANumber ∧ KeyLt (orderKey a) (orderKey b) := by
  -- both sides are decided per pair of kinds and signs
  rcases a with (_ | _) | _ | (_ | _) | ⟨_ | _, m, e, hm⟩ <;>
  rcases b with (_ | _) | _ | (_ | _) | ⟨_ | _, m', e', hm'⟩ <;>
  simp [UnpackedFloat.lt, UnpackedFloat.compare, orderKey, KeyLt, Ordering.then_eq_lt,
    Ordering.swap_eq_lt, Ordering.then_eq_gt, Int.compare_eq_lt, Int.compare_eq_gt,
    Nat.compare_eq_lt, Nat.compare_eq_gt, sign_compare_neg_pos, sign_compare_pos_neg,
    sign_compare_neg_neg, sign_compare_pos_pos]

/-- **Order of unpacked doubles.** At most is lexicographic order or equal keys, and NaN is
comparable with nothing. -/
theorem unpacked_le_iff (a b : UnpackedFloat) :
    a.le b = true ↔ a ≠ .notANumber ∧ b ≠ .notANumber ∧
      (KeyLt (orderKey a) (orderKey b) ∨ orderKey a = orderKey b) := by
  rcases a with (_ | _) | _ | (_ | _) | ⟨_ | _, m, e, hm⟩ <;>
  rcases b with (_ | _) | _ | (_ | _) | ⟨_ | _, m', e', hm'⟩ <;>
  simp [UnpackedFloat.le, UnpackedFloat.compare, orderKey, KeyLt, Ordering.isLE_iff_ne_gt,
    Ordering.isGE_iff_ne_lt, Ordering.then_eq_lt, Ordering.then_eq_gt, Int.compare_eq_lt,
    Int.compare_eq_gt, Nat.compare_eq_lt, Nat.compare_eq_gt, sign_compare_neg_pos,
    sign_compare_pos_neg, sign_compare_neg_neg, sign_compare_pos_pos] <;>
  omega

/-! ## Doubles -/

theorem float_lt_iff (a b : Float) : a < b ↔ a.toModel.unpack.lt b.toModel.unpack = true := by
  show decide (a.toModel.lt b.toModel = true) = true ↔ _
  rw [decide_eq_true_iff]
  rfl

theorem float_le_iff (a b : Float) : a ≤ b ↔ a.toModel.unpack.le b.toModel.unpack = true := by
  show decide (a.toModel.le b.toModel = true) = true ↔ _
  rw [decide_eq_true_iff]
  rfl

/-- A double at most a second one that is below a third is below the third. -/
theorem float_lt_of_le_of_lt {a b c : Float} (h1 : a ≤ b) (h2 : b < c) : a < c := by
  rw [float_le_iff, unpacked_le_iff] at h1
  rw [float_lt_iff, unpacked_lt_iff] at h2 ⊢
  obtain ⟨ha, -, hab⟩ := h1
  obtain ⟨-, hc, hbc⟩ := h2
  refine ⟨ha, hc, ?_⟩
  rcases hab with hab | hab
  · exact keyLt_trans hab hbc
  · rwa [hab]

/-- The order of doubles is transitive. -/
theorem float_le_trans {a b c : Float} (h1 : a ≤ b) (h2 : b ≤ c) : a ≤ c := by
  rw [float_le_iff, unpacked_le_iff] at h1 h2 ⊢
  obtain ⟨ha, -, hab⟩ := h1
  obtain ⟨-, hc, hbc⟩ := h2
  refine ⟨ha, hc, ?_⟩
  rcases hab with hab | hab
  · rcases hbc with hbc | hbc
    · exact .inl (keyLt_trans hab hbc)
    · rw [← hbc]
      exact .inl hab
  · rwa [hab]

/-- The strict order of doubles is transitive. -/
theorem float_lt_trans {a b c : Float} (h1 : a < b) (h2 : b < c) : a < c := by
  rw [float_lt_iff, unpacked_lt_iff] at h1 h2 ⊢
  obtain ⟨ha, -, hab⟩ := h1
  obtain ⟨-, hc, hbc⟩ := h2
  exact ⟨ha, hc, keyLt_trans hab hbc⟩

/-- A double below another is not above it. -/
theorem float_lt_asymm {a b : Float} (h : a < b) : ¬ b < a := by
  intro h'
  rw [float_lt_iff, unpacked_lt_iff] at h h'
  have hk := keyLt_trans h.2.2 h'.2.2
  unfold KeyLt at hk
  omega

/-- A double below another is not at least it. -/
theorem float_not_le_of_lt {a b : Float} (h : a < b) : ¬ b ≤ a := by
  intro h'
  rw [float_lt_iff, unpacked_lt_iff] at h
  rw [float_le_iff, unpacked_le_iff] at h'
  obtain ⟨-, -, hab⟩ := h
  obtain ⟨-, -, hba⟩ := h'
  -- the keys would be below themselves
  have hk : KeyLt (orderKey a.toModel.unpack) (orderKey a.toModel.unpack) := by
    rcases hba with hba | hba
    · exact keyLt_trans hab hba
    · rwa [hba] at hab
  unfold KeyLt at hk
  omega

/-- A double that is not NaN does not unpack to NaN. -/
theorem unpack_ne_notANumber {a : Float} (h : a.isNaN = false) :
    a.toModel.unpack ≠ .notANumber := by
  intro hn
  have hnan : a.isNaN = true := by
    show a.toModel.unpack.isNaN = true
    rw [hn]
    rfl
  rw [hnan] at h
  cases h

/-- A double that does not unpack to NaN is not NaN. -/
theorem isNaN_of_unpack_ne {a : Float} (h : a.toModel.unpack ≠ .notANumber) : a.isNaN = false := by
  show a.toModel.unpack.isNaN = false
  generalize a.toModel.unpack = u at h ⊢
  cases u with
  | notANumber => exact absurd rfl h
  | _ => rfl

/-- A double below another is not NaN. -/
theorem float_isNaN_of_lt {a b : Float} (h : a < b) : a.isNaN = false := by
  rw [float_lt_iff, unpacked_lt_iff] at h
  exact isNaN_of_unpack_ne h.1

/-- Away from NaN the order of doubles is total: a double not below another is at least it. -/
theorem float_le_of_not_lt {a b : Float} (ha : a.isNaN = false) (hb : b.isNaN = false)
    (h : ¬ a < b) : b ≤ a := by
  have ha' := unpack_ne_notANumber ha
  have hb' := unpack_ne_notANumber hb
  rw [float_lt_iff, unpacked_lt_iff] at h
  rw [float_le_iff, unpacked_le_iff]
  refine ⟨hb', ha', ?_⟩
  have hk : ¬ KeyLt (orderKey a.toModel.unpack) (orderKey b.toModel.unpack) :=
    fun hk => h ⟨ha', hb', hk⟩
  -- the lexicographic order on keys is total
  generalize orderKey a.toModel.unpack = x at hk ⊢
  generalize orderKey b.toModel.unpack = y at hk ⊢
  obtain ⟨x1, x2, x3⟩ := x
  obtain ⟨y1, y2, y3⟩ := y
  simp only [KeyLt, Prod.mk.injEq] at hk ⊢
  omega

/-- Both sides of a comparison that holds are numbers. -/
theorem float_isNaN_of_le {a b : Float} (h : a ≤ b) : a.isNaN = false ∧ b.isNaN = false := by
  rw [float_le_iff, unpacked_le_iff] at h
  exact ⟨isNaN_of_unpack_ne h.1, isNaN_of_unpack_ne h.2.1⟩

/-- A double that is not NaN is at most itself. -/
theorem float_le_refl {a : Float} (h : a.isNaN = false) : a ≤ a := by
  rw [float_le_iff, unpacked_le_iff]
  exact ⟨unpack_ne_notANumber h, unpack_ne_notANumber h, .inr rfl⟩

theorem float_le_of_lt {a b : Float} (h : a < b) : a ≤ b := by
  rw [float_lt_iff, unpacked_lt_iff] at h
  rw [float_le_iff, unpacked_le_iff]
  exact ⟨h.1, h.2.1, .inl h.2.2⟩

/-- Away from NaN, a double that another is not at most is below the other. -/
theorem float_lt_of_not_le {a b : Float} (ha : a.isNaN = false) (hb : b.isNaN = false)
    (h : ¬ b ≤ a) : a < b := by
  by_contra hlt
  exact h (float_le_of_not_lt ha hb hlt)

/-! ## Equality -/

/-- **Equality of unpacked doubles.** Two doubles are equal when neither is NaN and their keys
agree: the two zeros share a key, and every other double has a key of its own. -/
theorem unpacked_beq_iff (a b : UnpackedFloat) :
    a.beq b = true ↔ a ≠ .notANumber ∧ b ≠ .notANumber ∧ orderKey a = orderKey b := by
  rcases a with (_ | _) | _ | (_ | _) | ⟨_ | _, m, e, hm⟩ <;>
  rcases b with (_ | _) | _ | (_ | _) | ⟨_ | _, m', e', hm'⟩ <;>
  simp [UnpackedFloat.beq, UnpackedFloat.compare, orderKey, Ordering.then_eq_eq,
    sign_compare_neg_pos, sign_compare_pos_neg, sign_compare_neg_neg, sign_compare_pos_pos]

theorem float_beq_iff (a b : Float) :
    (a == b) = true ↔ a.toModel.unpack.beq b.toModel.unpack = true := Iff.rfl

theorem float_beq_symm {a b : Float} (h : (a == b) = true) : (b == a) = true := by
  rw [float_beq_iff, unpacked_beq_iff] at h ⊢
  obtain ⟨ha, hb, hk⟩ := h
  exact ⟨hb, ha, hk.symm⟩

theorem float_beq_trans {a b c : Float} (h1 : (a == b) = true) (h2 : (b == c) = true) :
    (a == c) = true := by
  rw [float_beq_iff, unpacked_beq_iff] at h1 h2 ⊢
  exact ⟨h1.1, h2.2.1, h1.2.2.trans h2.2.2⟩

/-- Away from NaN a double equals itself. -/
theorem float_beq_self {a : Float} (h : a.isNaN = false) : (a == a) = true := by
  have ha := unpack_ne_notANumber h
  rw [float_beq_iff, unpacked_beq_iff]
  exact ⟨ha, ha, rfl⟩

/-- Equal doubles stand alike in the strict order. -/
theorem float_lt_congr {a a' b b' : Float} (ha : (a == a') = true) (hb : (b == b') = true) :
    a < b ↔ a' < b' := by
  rw [float_beq_iff, unpacked_beq_iff] at ha hb
  obtain ⟨ha1, ha2, hka⟩ := ha
  obtain ⟨hb1, hb2, hkb⟩ := hb
  rw [float_lt_iff, float_lt_iff, unpacked_lt_iff, unpacked_lt_iff, hka, hkb]
  simp only [ne_eq, ha1, ha2, hb1, hb2, not_false_eq_true, true_and]

/-- Equal doubles are not below one another. -/
theorem float_not_lt_of_beq {a b : Float} (h : (a == b) = true) : ¬ a < b := by
  rw [float_beq_iff, unpacked_beq_iff] at h
  rw [float_lt_iff, unpacked_lt_iff, h.2.2]
  rintro ⟨-, -, hk⟩
  unfold KeyLt at hk
  omega

/-- Away from NaN two doubles neither of which is below the other are equal. -/
theorem float_beq_of_not_lt {a b : Float} (ha : a.isNaN = false) (hb : b.isNaN = false)
    (h1 : ¬ a < b) (h2 : ¬ b < a) : (a == b) = true := by
  have ha' := unpack_ne_notANumber ha
  have hb' := unpack_ne_notANumber hb
  rw [float_lt_iff, unpacked_lt_iff] at h1 h2
  rw [float_beq_iff, unpacked_beq_iff]
  refine ⟨ha', hb', ?_⟩
  have hk1 : ¬ KeyLt (orderKey a.toModel.unpack) (orderKey b.toModel.unpack) :=
    fun hk => h1 ⟨ha', hb', hk⟩
  have hk2 : ¬ KeyLt (orderKey b.toModel.unpack) (orderKey a.toModel.unpack) :=
    fun hk => h2 ⟨hb', ha', hk⟩
  -- the lexicographic order on keys is total
  generalize orderKey a.toModel.unpack = x at hk1 hk2 ⊢
  generalize orderKey b.toModel.unpack = y at hk1 hk2 ⊢
  obtain ⟨x1, x2, x3⟩ := x
  obtain ⟨y1, y2, y3⟩ := y
  simp only [KeyLt, Prod.mk.injEq] at hk1 hk2 ⊢
  omega

/-- Equal doubles are both finite or both not. -/
theorem float_isFinite_congr {a b : Float} (h : (a == b) = true) : a.isFinite = b.isFinite := by
  rw [float_beq_iff, unpacked_beq_iff] at h
  show a.toModel.unpack.isFinite = b.toModel.unpack.isFinite
  obtain ⟨ha, hb, hk⟩ := h
  generalize a.toModel.unpack = u at ha hk ⊢
  generalize b.toModel.unpack = v at hb hk ⊢
  rcases u with (_ | _) | _ | (_ | _) | ⟨_ | _, m, e, hm⟩ <;>
  rcases v with (_ | _) | _ | (_ | _) | ⟨_ | _, m', e', hm'⟩ <;>
  simp_all [orderKey, UnpackedFloat.isFinite]

/-- A finite double is not NaN. -/
theorem float_isNaN_of_isFinite {a : Float} (h : a.isFinite = true) : a.isNaN = false := by
  show a.toModel.unpack.isNaN = false
  have hu : a.toModel.unpack.isFinite = true := h
  generalize a.toModel.unpack = u at hu ⊢
  cases u <;> simp_all [UnpackedFloat.isFinite, UnpackedFloat.isNaN]

end CrowdSim
