import CharacterMotion.Proofs.Binary32.Storage

/-!
Finite numbers compare as the real numbers that they stand for (`lt_iff_real_lt`, `le_iff_real_le`).
The comparison looks at signs, exponents and mantissas only, so it depends on the one form in which
the format has each number.
-/

namespace CharacterMotion.Binary32

open Float.Model (UnpackedFloat)

/-- The greater exponent decides, and the mantissa among equal exponents. -/
theorem Fits.compares {m₁ m₂ : Nat} {e₁ e₂ : Int} (fits₁ : Fits m₁ e₁) (fits₂ : Fits m₂ e₂) :
    ((compare e₁ e₂).then (compare m₁ m₂)).Compares ((m₁ : ℝ) * 2 ^ e₁) (m₂ * 2 ^ e₂) := by
  have smaller {m m' : Nat} {e e' : Int} (fits : Fits m e) (fits' : Fits m' e') (less : e < e') :
      (m : ℝ) * 2 ^ e < m' * 2 ^ e' := by
    have short : (m : ℝ) < 2 ^ 24 := by exact_mod_cast fits.short
    have full : 2 ^ 23 ≤ m' := by
      have := fits.low
      have := fits'.full
      omega
    have long : (2 : ℝ) ^ 23 ≤ m' := by exact_mod_cast full
    have place : (2 : ℝ) * 2 ^ e ≤ 2 ^ e' := by
      rw [← zpow_one_add₀ two_ne_zero]
      exact zpow_le_zpow_right₀ one_le_two (by omega)
    calc (m : ℝ) * 2 ^ e < 2 ^ 24 * 2 ^ e := mul_lt_mul_of_pos_right short (by positivity)
      _ = 2 ^ 23 * (2 * 2 ^ e) := by ring
      _ ≤ m' * 2 ^ e' := mul_le_mul long place (by positivity) (by positivity)
  rcases lt_trichotomy e₁ e₂ with less | rfl | greater
  · rw [compare_lt_iff_lt.mpr less]
    exact smaller fits₁ fits₂ less
  · rw [compare_eq_iff_eq.mpr rfl]
    have scale : (0 : ℝ) < 2 ^ e₁ := by positivity
    rcases lt_trichotomy m₁ m₂ with less | rfl | greater
    · rw [compare_lt_iff_lt.mpr less]
      exact mul_lt_mul_of_pos_right (by exact_mod_cast less) scale
    · rw [compare_eq_iff_eq.mpr rfl]
      exact rfl
    · rw [compare_gt_iff_gt.mpr greater]
      exact mul_lt_mul_of_pos_right (by exact_mod_cast greater) scale
  · rw [compare_gt_iff_gt.mpr greater]
    exact smaller fits₂ fits₁ greater

/-- Finite numbers compare as their values do. -/
theorem exists_compares {u v : UnpackedFloat} (finite : u.isFinite) (finite' : v.isFinite)
    (canonical : Canonical u) (canonical' : Canonical v) :
    ∃ order, u.compare v = some order ∧ order.Compares (number u) (number v) := by
  obtain ⟨s₁, rfl⟩ | ⟨s₁, m₁, e₁, some₁, rfl⟩ := zero_or_finite finite
  · obtain ⟨s₂, rfl⟩ | ⟨s₂, m₂, e₂, some₂, rfl⟩ := zero_or_finite finite'
    · exact ⟨.eq, rfl, rfl⟩
    · cases s₂ with
      | positive => exact ⟨.lt, rfl, number_positive_pos⟩
      | negative => exact ⟨.gt, rfl, number_negative_neg⟩
  · obtain ⟨s₂, rfl⟩ | ⟨s₂, m₂, e₂, some₂, rfl⟩ := zero_or_finite finite'
    · cases s₁ with
      | positive => exact ⟨.gt, rfl, number_positive_pos⟩
      | negative => exact ⟨.lt, rfl, number_negative_neg⟩
    · have order := Fits.compares canonical canonical'
      cases s₁ with
      | positive =>
          cases s₂ with
          | positive =>
              rw [number_positive, number_positive]
              exact ⟨_, rfl, order⟩
          | negative => exact ⟨.gt, rfl, number_negative_neg.trans number_positive_pos⟩
      | negative =>
          cases s₂ with
          | positive => exact ⟨.lt, rfl, number_negative_neg.trans number_positive_pos⟩
          | negative =>
              rw [number_negative, number_negative]
              refine ⟨_, rfl, ?_⟩
              generalize (compare e₁ e₂).then (compare m₁ m₂) = digits at order ⊢
              cases digits with
              | lt => exact neg_lt_neg order
              | eq => exact congrArg Neg.neg order
              | gt => exact neg_lt_neg order

variable {x y : Float32}

theorem stored_toModel (x : Float32) : Stored x.toModel.unpack := stored_unpack _

theorem canonical_toModel (x : Float32) : Canonical x.toModel.unpack := (stored_toModel x).canonical

theorem lt_iff_compare :
    x < y ↔ (x.toModel.unpack.compare y.toModel.unpack == some .lt) = true := decide_eq_true_iff

theorem le_iff_compare :
    x ≤ y ↔ (x.toModel.unpack.compare y.toModel.unpack).any (·.isLE) = true := decide_eq_true_iff

theorem lt_iff_real_lt (finite : Scalar.isFinite x) (finite' : Scalar.isFinite y) :
    x < y ↔ real x < real y := by
  obtain ⟨order, compares, values⟩ :=
    exists_compares finite finite' (canonical_toModel x) (canonical_toModel y)
  rw [lt_iff_compare, compares, real_eq_number, real_eq_number, beq_iff_eq, Option.some_inj]
  exact values.eq_lt

theorem le_iff_real_le (finite : Scalar.isFinite x) (finite' : Scalar.isFinite y) :
    x ≤ y ↔ real x ≤ real y := by
  obtain ⟨order, compares, values⟩ :=
    exists_compares finite finite' (canonical_toModel x) (canonical_toModel y)
  rw [le_iff_compare, compares, real_eq_number, real_eq_number]
  cases order with
  | lt => exact iff_of_true rfl values.le
  | eq => exact iff_of_true rfl values.le
  | gt => exact iff_of_false Bool.false_ne_true values.not_ge

theorem isFinite_zero : Scalar.isFinite (0 : Float32) := rfl

theorem real_zero : real 0 = 0 := by
  rw [real_eq_number]
  rfl

theorem nonneg_iff (finite : Scalar.isFinite x) : 0 ≤ x ↔ 0 ≤ real x := by
  rw [le_iff_real_le isFinite_zero finite, real_zero]

theorem pos_iff (finite : Scalar.isFinite x) : 0 < x ↔ 0 < real x := by
  rw [lt_iff_real_lt isFinite_zero finite, real_zero]

theorem agrees_zero_iff (finite : Scalar.isFinite x) : Scalar.agrees x 0 = true ↔ real x = 0 := by
  rw [Scalar.agrees, Bool.and_eq_true, decide_eq_true_eq, decide_eq_true_eq,
    le_iff_real_le finite isFinite_zero, nonneg_iff finite, real_zero, le_antisymm_iff]

theorem real_smaller (finite : Scalar.isFinite x) (finite' : Scalar.isFinite y) :
    Scalar.isFinite (Scalar.smaller x y) ∧
      real (Scalar.smaller x y) = min (real x) (real y) := by
  have number : Scalar.isNaN x = false := by
    rw [Scalar.isNaN, decide_eq_true ((le_iff_real_le finite finite).mpr le_rfl), Bool.not_true]
  unfold Scalar.smaller
  simp only [number, Bool.false_eq_true, or_false, lt_iff_real_lt finite' finite]
  split <;> rename_i less
  · exact ⟨finite', (min_eq_right less.le).symm⟩
  · exact ⟨finite, (min_eq_left (not_lt.mp less)).symm⟩

/-! ### The range -/

theorem least_le_real (finite : Scalar.isFinite x) (pos : 0 < real x) : 1 / 2 ^ 149 ≤ real x := by
  rw [real_eq_number] at pos ⊢
  have canonical := canonical_toModel x
  obtain ⟨s, read⟩ | ⟨s, m, e, some, read⟩ := zero_or_finite finite <;> rw [read] at pos canonical ⊢
  · exact absurd pos (lt_irrefl _)
  · cases s with
    | negative => exact absurd pos number_negative_neg.not_gt
    | positive =>
        have one : (1 : ℝ) ≤ m := by exact_mod_cast some
        have place : (2 : ℝ) ^ (-149 : Int) ≤ 2 ^ e :=
          zpow_le_zpow_right₀ one_le_two canonical.low
        rw [number_positive]
        calc (1 : ℝ) / 2 ^ 149 = 1 * 2 ^ (-149 : Int) := by norm_num
          _ ≤ (m : ℝ) * 2 ^ e := mul_le_mul one place (by positivity) (by positivity)

theorem abs_real_lt (x : Float32) : |real x| < 2 ^ 128 := by
  rw [real_eq_number]
  have stored := stored_toModel x
  generalize x.toModel.unpack = u at stored
  cases u with
  | finite s m e some =>
      obtain ⟨fits, ranged⟩ := stored
      have short : (m : ℝ) < 2 ^ 24 := by exact_mod_cast fits.short
      have place : (2 : ℝ) ^ e ≤ 2 ^ (104 : Int) := zpow_le_zpow_right₀ one_le_two ranged
      rw [abs_number]
      calc (m : ℝ) * 2 ^ e < 2 ^ 24 * 2 ^ (104 : Int) :=
            mul_lt_mul short place (by positivity) (by positivity)
        _ = 2 ^ 128 := by norm_num
  | _ => exact abs_zero.trans_lt (by positivity)

theorem real_lt (x : Float32) : real x < 2 ^ 128 := (le_abs_self _).trans_lt (abs_real_lt x)

theorem Below.abs_real_lt {k : Nat} (below : Below k x) : |real x| < 2 ^ k := by
  rw [real_eq_number]
  unfold Below at below
  generalize x.toModel.unpack = u at below
  cases below with
  | zero s => exact abs_zero.trans_lt (by positivity)
  | @finite s m e some fits =>
      have low := exponent_lt fits some
      have power : (2 : ℝ) ^ k = 2 ^ (k - e).toNat * 2 ^ e := by
        rw [← zpow_natCast, ← zpow_natCast, ← zpow_add₀ two_ne_zero]
        congr 1
        omega
      rw [abs_number, power]
      exact mul_lt_mul_of_pos_right (by exact_mod_cast fits) (by positivity)

end CharacterMotion.Binary32
