import CharacterMotion.Proofs.Binary32.Magnitude
import CharacterMotion.Proofs.Exact.Scalar

/-!
How close the result of rounding is to the exact one.

An exact result lies between two neighbouring numbers of the format, and rounding picks one of them.
So the error is at most the place of the last digit, which is a `2 ^ 23`rd part of the result, or
`2 ^ (-149)` where results are small; the sign stays, and no power of two is passed (`Near`). The
range of exponents is not looked at here: what is too large is found out when it is stored.
-/

namespace CharacterMotion.Binary32

open Float.Model (Format UnpackedFloat totalExponent)
open Float.Model.UnpackedFloat

/-! ### Real values -/

/-- The sign as a factor. -/
def unit (sign : Sign) : ℝ := sign.apply 1

theorem unit_positive : unit .positive = 1 := Int.cast_one

theorem unit_negative : unit .negative = -1 := by norm_num [unit, Sign.apply]

@[simp] theorem abs_unit (sign : Sign) : |unit sign| = 1 := by
  cases sign <;> simp [unit_positive, unit_negative]

theorem cast_apply (sign : Sign) (n : Int) : (sign.apply n : ℝ) = unit sign * n := by
  cases sign <;> simp [unit, Sign.apply]

/-- The real number that an unpacked one stands for. What is not finite stands for zero. -/
noncomputable def number : UnpackedFloat → ℝ
  | .finite sign m e _ => unit sign * (m * 2 ^ e)
  | _ => 0

theorem zero_or_finite {u : UnpackedFloat} (finite : u.isFinite) :
    (∃ sign, u = .zero sign) ∨ ∃ sign m e some, u = .finite sign m e some := by
  cases u with
  | zero sign => exact .inl ⟨sign, rfl⟩
  | finite sign m e some => exact .inr ⟨sign, m, e, some, rfl⟩
  | _ => cases finite

theorem number_zero {sign : Sign} : number (.zero sign) = 0 := rfl

theorem number_finite {sign : Sign} {m : Nat} {e : Int} {some : 0 < m} :
    number (.finite sign m e some) = unit sign * (m * 2 ^ e) := rfl

theorem number_positive {m : Nat} {e : Int} {some : 0 < m} :
    number (.finite .positive m e some) = m * 2 ^ e := by
  rw [number_finite, unit_positive, one_mul]

theorem number_negative {m : Nat} {e : Int} {some : 0 < m} :
    number (.finite .negative m e some) = -(m * 2 ^ e) := by
  rw [number_finite, unit_negative, neg_one_mul]

theorem abs_number {sign : Sign} {m : Nat} {e : Int} {some : 0 < m} :
    |number (.finite sign m e some)| = m * 2 ^ e := by
  rw [number_finite, abs_mul, abs_unit, one_mul, abs_of_nonneg (by positivity)]

theorem number_positive_pos {m : Nat} {e : Int} {some : 0 < m} :
    0 < number (.finite .positive m e some) := by
  rw [number_positive]
  positivity

theorem number_negative_neg {m : Nat} {e : Int} {some : 0 < m} :
    number (.finite .negative m e some) < 0 := by
  rw [number_negative, neg_lt_zero]
  positivity

/-- The value of a number as a real one. -/
noncomputable def real (x : Float32) : ℝ := value x

theorem real_eq_number (x : Float32) : real x = number x.toModel.unpack := by
  unfold real value
  cases x.toModel.unpack with
  | finite sign m e some =>
      have scale : (2 : ℝ) ^ e = 2 ^ e.toNat / 2 ^ (-e).toNat := by
        rw [← zpow_natCast, ← zpow_natCast, ← zpow_sub₀ two_ne_zero]
        congr 1
        omega
      change ((mkRat (sign.apply (m <<< e.toNat)) (1 <<< (-e).toNat) : ℚ) : ℝ) = _
      rw [number_finite, Rat.mkRat_eq_div, Nat.shiftLeft_eq, Nat.shiftLeft_eq, one_mul, scale]
      push_cast
      rw [cast_apply]
      push_cast
      ring
  | _ => exact Rat.cast_zero

/-! ### Mantissas of the format -/

/-- A mantissa and an exponent as the format has them: no more than 24 digits, and fewer only at the
least exponent. -/
structure Fits (m : Nat) (e : Int) : Prop where
  short : m < 2 ^ 24
  low : -149 ≤ e
  full : 2 ^ 23 ≤ m ∨ e = -149

/-- In the form that the format gives a number, but perhaps out of its range. -/
def Canonical : UnpackedFloat → Prop
  | .finite _ m e _ => Fits m e
  | _ => True

theorem targetExponent_eq (m : Nat) (e : Int) :
    Format.binary32.targetExponent (totalExponent m e) = max (m.log2 + e - 23) (-149) := by
  change max ((m.log2 : Int) + 1 + e - 24) (-149) = _
  omega

/-- Shifting to the target leaves what fits, unless digits are missing. -/
theorem fits_shift {m : Nat} {e : Int} (wide : 2 ^ 23 ≤ m ∨ e ≤ -149) {s : Nat}
    (shift : s = (Format.binary32.targetExponent (totalExponent m e) - e).toNat) :
    Fits (m / 2 ^ s) (e + s) := by
  rw [targetExponent_eq] at shift
  have digits : 2 ^ 23 ≤ m → 23 ≤ m.log2 := fun long => (Nat.le_log2 (by omega)).mpr long
  have exponent : e + s = max (m.log2 + e - 23) (-149) := by omega
  refine ⟨?_, by omega, ?_⟩
  · rw [Nat.div_lt_iff_lt_mul (Nat.two_pow_pos s), ← pow_add]
    exact Nat.lt_log2_self.trans_le (Nat.pow_le_pow_right Nat.two_pos (by omega))
  · by_cases least : e + s = -149
    · exact .inr least
    · have long : 23 + s = m.log2 := by omega
      have some : m ≠ 0 := by
        rintro rfl
        simp at long
      left
      rw [Nat.le_div_iff_mul_le (Nat.two_pow_pos s), ← pow_add, long]
      exact Nat.log2_self_le some

/-- What rounding up has made too long by one digit ends in a zero, which may be dropped. -/
theorem shift_dvd {n : Nat} {e : Int} (most : n ≤ 2 ^ 24) (low : -149 ≤ e) {s : Nat}
    (shift : s = (Format.binary32.targetExponent (totalExponent n e) - e).toNat) : 2 ^ s ∣ n := by
  rw [targetExponent_eq] at shift
  rcases most.eq_or_lt with rfl | less
  · have one : s = 1 := by
      rw [Nat.log2_two_pow] at shift
      omega
    rw [one]
    decide
  · have digits : n.log2 ≤ 23 := by
      rcases n.eq_zero_or_pos with rfl | some
      · simp
      · exact Nat.lt_succ_iff.mp ((Nat.log2_lt some.ne').mpr less)
    have none : s = 0 := by omega
    rw [none]
    exact one_dvd n

theorem le_roundedMantissa (em : ExtendedMantissa) : em.mantissa ≤ em.roundedMantissa := by
  unfold ExtendedMantissa.roundedMantissa Accuracy.roundToNearestEven
  split <;> omega

/-- Rounding takes the digits that fit, or one more in the last place. -/
theorem roundWithAccuracy_eq {m : Nat} {e : Int} (wide : 2 ^ 23 ≤ m ∨ e ≤ -149) (sign : Sign)
    (accuracy : Accuracy) : ∃ s n : Nat,
      Fits (m / 2 ^ s) (e + s) ∧ m / 2 ^ s ≤ n ∧ n ≤ m / 2 ^ s + 1 ∧
      let u := roundWithAccuracy Format.binary32 sign m e accuracy
      u.isFinite ∧ Canonical u ∧ number u = unit sign * (n * 2 ^ (e + s)) := by
  obtain ⟨s, shift, mantissa, exponent⟩ := shiftToTargetExponent_eq m e accuracy
  have fits := fits_shift wide shift
  unfold Float.Model.UnpackedFloat.roundWithAccuracy
  generalize shiftToTargetExponent Format.binary32 m e accuracy = first at mantissa exponent
  obtain ⟨em, e'⟩ := first
  dsimp only at mantissa exponent ⊢
  subst exponent
  have least := le_roundedMantissa em
  have most := roundedMantissa_le em
  rw [mantissa] at least most
  refine ⟨s, em.roundedMantissa, fits, least, most, ?_⟩
  -- The second shift is there for a mantissa that rounding has made too long.
  generalize em.roundedMantissa = n at least most
  obtain ⟨s', shift', final, final_exponent⟩ := shiftToTargetExponent_eq n (e + s) .exact
  have short := fits.short
  have exact_shift := shift_dvd (by omega) fits.low shift'
  have final_fits := fits_shift (by have := fits.full; omega) shift'
  generalize shiftToTargetExponent Format.binary32 n (e + s) .exact = second at final final_exponent
  obtain ⟨em', e''⟩ := second
  dsimp only at final final_exponent ⊢
  subst final_exponent
  have same : (n : ℝ) * 2 ^ (e + s) = em'.mantissa * 2 ^ (e + s + s') := by
    rw [final, Nat.cast_div exact_shift (by positivity), zpow_add₀ two_ne_zero (e + s)]
    push_cast
    rw [zpow_natCast]
    field_simp
  by_cases empty : em'.mantissa = 0
  · rw [dif_pos empty]
    refine ⟨rfl, trivial, ?_⟩
    rw [same, empty, Nat.cast_zero, zero_mul, mul_zero, number_zero]
  · rw [dif_neg empty, same]
    rw [← final] at final_fits
    exact ⟨rfl, final_fits, number_finite⟩

/-! ### The error of rounding -/

/-- The number `v` may be what rounding makes of `r`. -/
structure Near (v r : ℝ) : Prop where
  close : |v - r| ≤ |r| / 2 ^ 23 + 1 / 2 ^ 149
  nonneg : 0 ≤ r → 0 ≤ v
  nonpos : r ≤ 0 → v ≤ 0
  /-- Powers of two are not passed. -/
  bounded : ∀ k : Nat, |r| < 2 ^ k → |v| ≤ 2 ^ k

namespace Near

variable {v r : ℝ}

theorem refl (r : ℝ) : Near r r :=
  ⟨by rw [sub_self, abs_zero]; positivity, id, id, fun _ less => less.le⟩

theorem eq_zero (near : Near v 0) : v = 0 :=
  le_antisymm (near.nonpos le_rfl) (near.nonneg le_rfl)

theorem abs_le (near : Near v r) : |v| ≤ |r| + |r| / 2 ^ 23 + 1 / 2 ^ 149 := by
  have close := near.close
  have triangle := abs_sub_abs_le_abs_sub v r
  linarith

theorem bounds (near : Near v r) (nonneg : 0 ≤ r) :
    r - r / 2 ^ 23 - 1 / 2 ^ 149 ≤ v ∧ v ≤ r + r / 2 ^ 23 + 1 / 2 ^ 149 := by
  have close := near.close
  rw [abs_of_nonneg nonneg] at close
  obtain ⟨low, high⟩ := abs_sub_le_iff.mp close
  constructor <;> linarith

end Near

section

variable {m s n : Nat} {e : Int} {q : ℝ}

theorem shifted_le (low : m * 2 ^ e ≤ q) : (m / 2 ^ s : Nat) * (2 : ℝ) ^ (e + s) ≤ q := by
  refine le_trans ?_ low
  have whole : ((m / 2 ^ s : Nat) : ℝ) * 2 ^ s ≤ m := by
    exact_mod_cast Nat.div_mul_le_self m (2 ^ s)
  rw [zpow_add₀ two_ne_zero, zpow_natCast, mul_comm ((2 : ℝ) ^ e), ← mul_assoc]
  exact mul_le_mul_of_nonneg_right whole (by positivity)

theorem le_shifted (high : q ≤ (m + 1) * 2 ^ e) :
    q ≤ ((m / 2 ^ s : Nat) + 1) * (2 : ℝ) ^ (e + s) := by
  refine high.trans ?_
  have rest : (m : ℝ) + 1 ≤ ((m / 2 ^ s : Nat) + 1) * 2 ^ s := by
    exact_mod_cast Nat.lt_mul_of_div_lt (Nat.lt_succ_self _) (Nat.two_pow_pos s)
  rw [zpow_add₀ two_ne_zero, zpow_natCast, mul_comm ((2 : ℝ) ^ e), ← mul_assoc]
  exact mul_le_mul_of_nonneg_right rest (by positivity)

/-- The place of the last digit weighs little. -/
theorem Fits.place_le (fits : Fits m e) (low : m * 2 ^ e ≤ q) (nonneg : 0 ≤ q) :
    (2 : ℝ) ^ e ≤ q / 2 ^ 23 + 1 / 2 ^ 149 := by
  rcases fits.full with full | rfl
  · have long : (2 : ℝ) ^ 23 ≤ m := by exact_mod_cast full
    have scaled : 2 ^ 23 * (2 : ℝ) ^ e ≤ q :=
      (mul_le_mul_of_nonneg_right long (by positivity)).trans low
    have place : (2 : ℝ) ^ e ≤ q / 2 ^ 23 := by
      rw [le_div_iff₀ (by positivity), mul_comm]
      exact scaled
    exact place.trans (le_add_of_nonneg_right (by positivity))
  · have least : (2 : ℝ) ^ (-149 : Int) = 1 / 2 ^ 149 := by norm_num
    rw [least]
    exact le_add_of_nonneg_left (by positivity)

/-- Of the neighbours of a number below a power of two, none lies above it. -/
theorem Fits.neighbour_le (fits : Fits m e) (low : m * 2 ^ e ≤ q) (most : n ≤ m + 1) {k : Nat}
    (less : q < 2 ^ k) : (n : ℝ) * 2 ^ e ≤ 2 ^ k := by
  by_cases high : (k : Int) < e
  · -- The mantissa has all its digits, and the last of them weighs more than the power.
    have full : 1 ≤ m := by
      have := fits.full
      omega
    have place : (2 : ℝ) ^ k ≤ 2 ^ e := by
      rw [← zpow_natCast]
      exact zpow_le_zpow_right₀ one_le_two high.le
    have one : (1 : ℝ) ≤ m := by exact_mod_cast full
    have := mul_le_mul_of_nonneg_right one (zpow_nonneg zero_le_two e)
    linarith
  · have power : (2 : ℝ) ^ k = 2 ^ (k - e).toNat * 2 ^ e := by
      rw [← zpow_natCast, ← zpow_natCast, ← zpow_add₀ two_ne_zero]
      congr 1
      omega
    have below : (m : ℝ) < 2 ^ (k - e).toNat :=
      lt_of_mul_lt_mul_right (low.trans_lt (power ▸ less)) (by positivity)
    have next : n ≤ 2 ^ (k - e).toNat := most.trans (by exact_mod_cast below)
    rw [power]
    exact mul_le_mul_of_nonneg_right (by exact_mod_cast next) (by positivity)

/-- A number and the neighbours between which it lies. -/
theorem Fits.near (fits : Fits m e) (low : m * 2 ^ e ≤ q) (high : q ≤ (m + 1) * 2 ^ e)
    (pos : 0 < q) (least : m ≤ n) (most : n ≤ m + 1) : Near (n * 2 ^ e) q := by
  have place := fits.place_le low pos.le
  have nonneg : (0 : ℝ) ≤ n * 2 ^ e := by positivity
  refine ⟨?_, fun _ => nonneg, fun nonpos => absurd pos nonpos.not_gt, fun k less => ?_⟩
  · have least : (m : ℝ) ≤ n := by exact_mod_cast least
    have most : (n : ℝ) ≤ m + 1 := by exact_mod_cast most
    have least := mul_le_mul_of_nonneg_right least (zpow_nonneg zero_le_two e)
    have most := mul_le_mul_of_nonneg_right most (zpow_nonneg zero_le_two e)
    rw [abs_of_pos pos]
    refine le_trans ?_ place
    rw [abs_le]
    constructor <;> linarith
  · rw [abs_of_pos pos] at less
    rw [abs_of_nonneg nonneg]
    exact fits.neighbour_le low most less

end

theorem Near.neg {v r : ℝ} (near : Near v r) : Near (-v) (-r) := by
  refine ⟨?_, fun nonneg => neg_nonneg.mpr (near.nonpos (neg_nonneg.mp nonneg)),
    fun nonpos => neg_nonpos.mpr (near.nonneg (neg_nonpos.mp nonpos)), fun k less => ?_⟩
  · rw [neg_sub_neg, abs_sub_comm, abs_neg]
    exact near.close
  · rw [abs_neg] at less ⊢
    exact near.bounded k less

theorem Near.unit_mul {v r : ℝ} (near : Near v r) (sign : Sign) :
    Near (unit sign * v) (unit sign * r) := by
  cases sign with
  | positive => simpa only [unit_positive, one_mul] using near
  | negative => simpa only [unit_negative, neg_one_mul] using near.neg

/-- What rounding the number `r` may give. -/
structure Rounds (u : UnpackedFloat) (r : ℝ) : Prop where
  finite : u.isFinite
  canonical : Canonical u
  near : Near (number u) r

/-- Rounding a number that has the given digits, and after them nothing or less than one in the last
place. -/
theorem rounds_roundWithAccuracy {m : Nat} {e : Int} (wide : 2 ^ 23 ≤ m ∨ e ≤ -149) (sign : Sign)
    (accuracy : Accuracy) {q : ℝ} (pos : 0 < q) (low : m * 2 ^ e ≤ q) (high : q ≤ (m + 1) * 2 ^ e) :
    Rounds (roundWithAccuracy Format.binary32 sign m e accuracy) (unit sign * q) := by
  obtain ⟨s, n, fits, least, most, finite, canonical, rounded⟩ :=
    roundWithAccuracy_eq wide sign accuracy
  have near := fits.near (shifted_le low) (le_shifted high) pos least most
  exact ⟨finite, canonical, rounded ▸ near.unit_mul sign⟩

end CharacterMotion.Binary32
