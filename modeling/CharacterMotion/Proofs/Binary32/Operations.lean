import CharacterMotion.Proofs.Binary32.Rounding

/-!
The operations on unpacked numbers, as operations on the numbers that these stand for. Sums,
differences and products of numbers of the format, and quotients and roots of any numbers, are the
exact results, rounded. Each operation has to find enough digits of its result before they are
rounded (`wide_quotient`, `wide_root`); products have them from their factors.
-/

namespace CharacterMotion.Binary32

open Float.Model (Format UnpackedFloat totalExponent)
open Float.Model.UnpackedFloat

theorem unit_mul (s₁ s₂ : Sign) : unit (s₁ * s₂) = unit s₁ * unit s₂ := by
  cases s₁ <;> cases s₂ <;> norm_num [unit, Sign.apply]

theorem unit_div (s₁ s₂ : Sign) : unit (s₁ / s₂) = unit s₁ / unit s₂ := by
  have product : unit (s₁ / s₂) = unit s₁ * unit s₂ := unit_mul s₁ s₂
  rw [product]
  cases s₂ with
  | negative => rw [unit_negative, div_neg, div_one, mul_neg_one]
  | positive => rw [unit_positive, div_one, mul_one]

theorem apply_neg (sign : Sign) (n : Int) : (-sign).apply n = -sign.apply n := by
  cases sign
  · exact (Int.neg_neg n).symm
  · rfl

theorem unit_neg (sign : Sign) : unit (-sign) = -unit sign := by
  unfold unit
  rw [apply_neg, Int.cast_neg]

theorem number_neg (u : UnpackedFloat) : number u.neg = -number u := by
  cases u with
  | finite s m e some =>
      change number (.finite (-s) m e some) = _
      rw [number_finite, number_finite, unit_neg, neg_mul]
  | _ => exact neg_zero.symm

theorem Canonical.neg {u : UnpackedFloat} (canonical : Canonical u) : Canonical u.neg := by
  cases u with
  | finite s m e some => exact canonical
  | _ => trivial

theorem isFinite_neg {u : UnpackedFloat} (finite : u.isFinite) : u.neg.isFinite := by
  obtain ⟨s, rfl⟩ | ⟨s, m, e, some, rfl⟩ := zero_or_finite finite <;> rfl

/-- Subtracting is adding the opposite. -/
theorem sub_eq_add (a b : UnpackedFloat) :
    sub Format.binary32 a b = add Format.binary32 a b.neg := by
  cases a with
  | finite s₁ m₁ e₁ some₁ =>
      cases b with
      | finite s₂ m₂ e₂ some₂ =>
          unfold Float.Model.UnpackedFloat.sub Float.Model.UnpackedFloat.add neg
          dsimp only
          rw [apply_neg, Int.sub_eq_add_neg]
      | _ => rfl
  | _ => cases b <;> rfl

/-- A mantissa that is moved to a smaller exponent. -/
theorem shiftLeft_mul_zpow (m : Nat) {e e' : Int} (le : e' ≤ e) :
    ((m <<< (e - e').toNat : Nat) : ℝ) * 2 ^ e' = m * 2 ^ e := by
  have exponent : e = (e - e').toNat + e' := by omega
  rw [Nat.shiftLeft_eq]
  conv_rhs => rw [exponent, zpow_add₀ two_ne_zero, zpow_natCast]
  push_cast
  ring

theorem shiftLeft_pos {m : Nat} (some : 0 < m) (s : Nat) : 0 < m <<< s := by
  rw [Nat.shiftLeft_eq]
  positivity

/-- The quotient of two mantissas has enough digits, unless it falls below the least exponent. -/
theorem wide_quotient {m₁ m₂ : Nat} {e₁ e₂ t : Int} (some₁ : 0 < m₁) (some₂ : 0 < m₂)
    (target : t = min (e₁ - e₂) (Format.binary32.targetExponent
      (totalExponent m₁ e₁ - totalExponent m₂ e₂))) :
    2 ^ 23 ≤ (m₁ <<< (e₁ - e₂ - t).toNat) / m₂ ∨ t ≤ -149 := by
  have targetExponent : Format.binary32.targetExponent
      (totalExponent m₁ e₁ - totalExponent m₂ e₂) =
        max (m₁.log2 + 1 + e₁ - (m₂.log2 + 1 + e₂) - 24) (-149) := rfl
  by_cases least : t ≤ -149
  · exact .inr least
  · left
    have digits : 23 + (m₂.log2 + 1) ≤ m₁.log2 + (e₁ - e₂ - t).toNat := by omega
    rw [Nat.le_div_iff_mul_le some₂, Nat.shiftLeft_eq]
    calc 2 ^ 23 * m₂ ≤ 2 ^ 23 * 2 ^ (m₂.log2 + 1) := Nat.mul_le_mul_left _ Nat.lt_log2_self.le
      _ = 2 ^ (23 + (m₂.log2 + 1)) := (pow_add ..).symm
      _ ≤ 2 ^ (m₁.log2 + (e₁ - e₂ - t).toNat) := Nat.pow_le_pow_right Nat.two_pos digits
      _ = 2 ^ m₁.log2 * 2 ^ (e₁ - e₂ - t).toNat := pow_add ..
      _ ≤ m₁ * 2 ^ (e₁ - e₂ - t).toNat := Nat.mul_le_mul_right _ (Nat.log2_self_le some₁.ne')

/-- The root of a mantissa has enough digits, unless it falls below the least exponent. -/
theorem wide_root {m : Nat} {e t : Int} (some : 0 < m)
    (target : t = min (e.ediv 2) (Format.binary32.targetExponent
      ((totalExponent m e + 1).ediv 2))) :
    2 ^ 23 ≤ Nat.sqrt (m <<< (e - 2 * t).toNat) ∨ t ≤ -149 := by
  have targetExponent : Format.binary32.targetExponent ((totalExponent m e + 1).ediv 2) =
      max ((m.log2 + 1 + e + 1) / 2 - 24) (-149) := rfl
  have half : e.ediv 2 = e / 2 := rfl
  by_cases least : t ≤ -149
  · exact .inr least
  · left
    have digits : 46 ≤ m.log2 + (e - 2 * t).toNat := by omega
    rw [Nat.le_sqrt', Nat.shiftLeft_eq, ← pow_mul]
    calc 2 ^ (23 * 2) ≤ 2 ^ (m.log2 + (e - 2 * t).toNat) := Nat.pow_le_pow_right Nat.two_pos digits
      _ = 2 ^ m.log2 * 2 ^ (e - 2 * t).toNat := pow_add ..
      _ ≤ m * 2 ^ (e - 2 * t).toNat := Nat.mul_le_mul_right _ (Nat.log2_self_le some.ne')

namespace Rounds

protected theorem zero (sign : Sign) : Rounds (.zero sign) 0 := ⟨rfl, trivial, .refl 0⟩

/-- What is a number of the format already is not changed. -/
theorem refl {u : UnpackedFloat} (finite : u.isFinite) (canonical : Canonical u) :
    Rounds u (number u) := ⟨finite, canonical, .refl _⟩

protected theorem round {m : Nat} {e : Int} (some : 0 < m) (sign : Sign) :
    Rounds (round Format.binary32 sign m e) (unit sign * (m * 2 ^ e)) := by
  unfold Float.Model.UnpackedFloat.round decreaseExponent
  dsimp only
  rw [targetExponent_eq]
  generalize shift : (e - max (m.log2 + e - 23) (-149)).toNat = s
  have wide : 2 ^ 23 ≤ m <<< s ∨ e - s ≤ -149 := by
    by_cases low : e - s ≤ -149
    · exact .inr low
    · left
      have long : 23 ≤ m.log2 + s := by omega
      rw [Nat.shiftLeft_eq]
      calc 2 ^ 23 ≤ 2 ^ (m.log2 + s) := Nat.pow_le_pow_right Nat.two_pos long
        _ = 2 ^ m.log2 * 2 ^ s := pow_add ..
        _ ≤ m * 2 ^ s := Nat.mul_le_mul_right _ (Nat.log2_self_le some.ne')
  have same : ((m <<< s : Nat) : ℝ) * 2 ^ (e - s) = m * 2 ^ e := by
    have shifted := shiftLeft_mul_zpow m (Int.sub_le_self e (Int.natCast_nonneg s))
    rwa [sub_sub_cancel, Int.toNat_natCast] at shifted
  refine rounds_roundWithAccuracy wide sign .exact (by positivity) same.le ?_
  rw [← same]
  exact mul_le_mul_of_nonneg_right (le_add_of_nonneg_right zero_le_one) (by positivity)

protected theorem normalize (m e : Int) (sign : Sign) :
    Rounds (normalize Format.binary32 m e sign) (m * 2 ^ e) := by
  unfold Float.Model.UnpackedFloat.normalize
  split <;> rename_i order
  · have negative := Int.compare_eq_lt.mp order
    have magnitude : ((-m).toNat : ℝ) = -m := by
      exact_mod_cast Int.toNat_of_nonneg (by omega : 0 ≤ -m)
    have rounded := Rounds.round (m := (-m).toNat) (e := e) (by omega) .negative
    rwa [magnitude, unit_negative, neg_mul, one_mul, neg_mul, neg_neg] at rounded
  · have none := Int.compare_eq_eq.mp order
    rw [none, Int.cast_zero, zero_mul]
    exact .zero sign
  · have positive := Int.compare_eq_gt.mp order
    have magnitude : (m.toNat : ℝ) = m := by
      exact_mod_cast Int.toNat_of_nonneg (by omega : 0 ≤ m)
    have rounded := Rounds.round (m := m.toNat) (e := e) (by omega) .positive
    rwa [magnitude, unit_positive, one_mul] at rounded

variable {a b : UnpackedFloat}

protected theorem neg (finite : a.isFinite) (canonical : Canonical a) :
    Rounds a.neg (-number a) := by
  rw [← number_neg]
  exact .refl (isFinite_neg finite) canonical.neg

protected theorem add (finite : a.isFinite) (finite' : b.isFinite) (canonical : Canonical a)
    (canonical' : Canonical b) :
    Rounds (add Format.binary32 a b) (number a + number b) := by
  obtain ⟨s₁, rfl⟩ | ⟨s₁, m₁, e₁, some₁, rfl⟩ := zero_or_finite finite
  · obtain ⟨s₂, rfl⟩ | ⟨s₂, m₂, e₂, some₂, rfl⟩ := zero_or_finite finite'
    · rw [number_zero, number_zero, add_zero]
      unfold Float.Model.UnpackedFloat.add
      dsimp only
      split <;> exact .zero _
    · rw [number_zero, zero_add]
      exact .refl rfl canonical'
  · obtain ⟨s₂, rfl⟩ | ⟨s₂, m₂, e₂, some₂, rfl⟩ := zero_or_finite finite'
    · rw [number_zero, add_zero]
      exact .refl rfl canonical
    · have sum : number (.finite s₁ m₁ e₁ some₁) + number (.finite s₂ m₂ e₂ some₂) =
          ((s₁.apply (m₁ <<< (e₁ - min e₁ e₂).toNat : Nat) +
            s₂.apply (m₂ <<< (e₂ - min e₁ e₂).toNat : Nat) : Int) : ℝ) * 2 ^ min e₁ e₂ := by
        rw [Int.cast_add, cast_apply, cast_apply, add_mul, mul_assoc, mul_assoc, Int.cast_natCast,
          Int.cast_natCast, shiftLeft_mul_zpow m₁ (min_le_left ..),
          shiftLeft_mul_zpow m₂ (min_le_right ..)]
        rfl
      rw [sum]
      exact .normalize ..

protected theorem sub (finite : a.isFinite) (finite' : b.isFinite) (canonical : Canonical a)
    (canonical' : Canonical b) :
    Rounds (sub Format.binary32 a b) (number a - number b) := by
  rw [sub_eq_add, sub_eq_add_neg, ← number_neg]
  exact .add finite (isFinite_neg finite') canonical canonical'.neg

protected theorem mul (finite : a.isFinite) (finite' : b.isFinite) (canonical : Canonical a)
    (canonical' : Canonical b) :
    Rounds (mul Format.binary32 a b) (number a * number b) := by
  obtain ⟨s₁, rfl⟩ | ⟨s₁, m₁, e₁, some₁, rfl⟩ := zero_or_finite finite
  · rw [number_zero, zero_mul]
    obtain ⟨s₂, rfl⟩ | ⟨s₂, m₂, e₂, some₂, rfl⟩ := zero_or_finite finite' <;> exact .zero _
  · obtain ⟨s₂, rfl⟩ | ⟨s₂, m₂, e₂, some₂, rfl⟩ := zero_or_finite finite'
    · rw [number_zero, mul_zero]
      exact .zero _
    · have product : number (.finite s₁ m₁ e₁ some₁) * number (.finite s₂ m₂ e₂ some₂) =
          unit (s₁ * s₂) * ((m₁ * m₂ : Nat) * 2 ^ (e₁ + e₂)) := by
        rw [number_finite, number_finite, unit_mul, zpow_add₀ two_ne_zero]
        push_cast
        ring
      rw [product]
      refine rounds_roundWithAccuracy ?_ _ _ (by positivity) le_rfl ?_
      · rcases canonical.full with full | low
        · exact .inl (full.trans (Nat.le_mul_of_pos_right _ some₂))
        · rcases canonical'.full with full' | low'
          · exact .inl (full'.trans (Nat.le_mul_of_pos_left _ some₁))
          · right
            omega
      · exact mul_le_mul_of_nonneg_right (le_add_of_nonneg_right zero_le_one) (by positivity)

protected theorem div (finite : a.isFinite) (finite' : b.isFinite) (some : number b ≠ 0) :
    Rounds (div Format.binary32 a b) (number a / number b) := by
  obtain ⟨s₂, rfl⟩ | ⟨s₂, m₂, e₂, some₂, rfl⟩ := zero_or_finite finite'
  · exact absurd rfl some
  · obtain ⟨s₁, rfl⟩ | ⟨s₁, m₁, e₁, some₁, rfl⟩ := zero_or_finite finite
    · rw [number_zero, zero_div]
      exact .zero _
    · unfold Float.Model.UnpackedFloat.div divCore
      dsimp only
      generalize target : min (e₁ - e₂) (Format.binary32.targetExponent
        (totalExponent m₁ e₁ - totalExponent m₂ e₂)) = t
      have wide := wide_quotient some₁ some₂ target.symm
      have dividend : ((m₁ <<< (e₁ - e₂ - t).toNat : Nat) : ℝ) * 2 ^ t = m₁ * 2 ^ (e₁ - e₂) :=
        shiftLeft_mul_zpow m₁ (by omega)
      have quotient : number (.finite s₁ m₁ e₁ some₁) / number (.finite s₂ m₂ e₂ some₂) =
          unit (s₁ / s₂) * ((m₁ <<< (e₁ - e₂ - t).toNat : Nat) / (m₂ : ℝ) * 2 ^ t) := by
        rw [number_finite, number_finite, div_mul_eq_mul_div, dividend, unit_div,
          zpow_sub₀ two_ne_zero, mul_div_mul_comm]
        field_simp
      rw [quotient]
      have shifted_pos := shiftLeft_pos some₁ (e₁ - e₂ - t).toNat
      generalize m₁ <<< (e₁ - e₂ - t).toNat = m at wide shifted_pos
      refine rounds_roundWithAccuracy wide _ _ (by positivity) ?_ ?_
      · exact mul_le_mul_of_nonneg_right Nat.cast_div_le (by positivity)
      · have digits : m ≤ (m / m₂ + 1) * m₂ :=
          (Nat.lt_mul_of_div_lt (Nat.lt_succ_self _) some₂).le
        refine mul_le_mul_of_nonneg_right ?_ (by positivity)
        rw [div_le_iff₀ (by exact_mod_cast some₂)]
        exact_mod_cast digits

protected theorem sqrt (finite : a.isFinite) (nonneg : 0 ≤ number a) :
    Rounds (sqrt Format.binary32 a) √(number a) := by
  obtain ⟨s, rfl⟩ | ⟨s, m, e, some, rfl⟩ := zero_or_finite finite
  · rw [number_zero, Real.sqrt_zero]
    exact .zero s
  · cases s with
    | negative => exact absurd nonneg number_negative_neg.not_ge
    | positive =>
        unfold Float.Model.UnpackedFloat.sqrt sqrtCore
        dsimp only
        generalize target : min (e.ediv 2) (Format.binary32.targetExponent
          ((totalExponent m e + 1).ediv 2)) = t
        have wide := wide_root some target.symm
        have double : 2 * t ≤ e := by
          have half : e.ediv 2 = e / 2 := rfl
          omega
        have scale : ((2 : ℝ) ^ t) ^ 2 = 2 ^ (2 * t) := by
          rw [← zpow_natCast, ← zpow_mul, mul_comm]
          rfl
        have radicand : ((m <<< (e - 2 * t).toNat : Nat) : ℝ) * 2 ^ (2 * t) = m * 2 ^ e :=
          shiftLeft_mul_zpow m double
        have root : √(number (.finite .positive m e some)) =
            unit .positive * (√((m <<< (e - 2 * t).toNat : Nat) : ℝ) * 2 ^ t) := by
          rw [unit_positive, one_mul, number_positive, ← radicand,
            Real.sqrt_mul (Nat.cast_nonneg _), ← scale, Real.sqrt_sq (by positivity)]
        rw [root]
        have shifted_pos := shiftLeft_pos some (e - 2 * t).toNat
        generalize m <<< (e - 2 * t).toNat = m' at wide shifted_pos
        refine rounds_roundWithAccuracy wide _ _ (by positivity) ?_ ?_
        · exact mul_le_mul_of_nonneg_right Real.nat_sqrt_le_real_sqrt (by positivity)
        · exact mul_le_mul_of_nonneg_right Real.real_sqrt_le_nat_sqrt_succ (by positivity)

end Rounds

end CharacterMotion.Binary32
