import CharacterMotion.Heading
import CharacterMotion.Proofs.Binary32.Overflow

/-!
The share of a turn in single precision. Whatever the rate is, be it infinite or a NaN, a frame of
a finite length makes a share that is a number, and not a large one (`TurnModel.share_bounded`). The
rate enters by its positive part only, and what it is multiplied to may overflow: the power of e of
what is then minus infinity is zero, and a linear share is cut to one.
-/

namespace CharacterMotion

namespace Binary32

open Float.Model (Format UnpackedFloat)
open Float.Model.UnpackedFloat (Sign pack unpack)

variable {x y : Float32}

/-! ### Opposites -/

/-- Nothing is lost of an opposite, not even where it is infinite. -/
theorem unpack_neg (x : Float32) : (-x).toModel.unpack = x.toModel.unpack.neg := by
  have stored : (-x).toModel.unpack = unpack Format.binary32 (pack Format.binary32
    x.toModel.unpack.neg) := rfl
  have form := stored_toModel x
  rw [stored]
  cases read : x.toModel.unpack with
  | notANumber => rfl
  | infinity s => exact unpack_pack_infinity (-s)
  | zero s => exact unpack_pack_zero (-s)
  | finite s m e some =>
      rw [read] at form
      exact (unpack_pack_of_fits form.1).trans (if_pos form.2)

/-- What is rounded from a number that is not positive is not positive, even if it is infinite. -/
theorem nonpos_of_rounds {u : UnpackedFloat} {r : ℝ} (rounds : Rounds u r) (nonpos : r ≤ 0)
    (stored : x.toModel.unpack = unpack Format.binary32 (pack Format.binary32 u)) : x ≤ 0 := by
  rcases rounds.unpack_pack with read | ⟨-, ⟨pos, -⟩ | ⟨-, read⟩⟩
  · have finite : Scalar.isFinite x := by
      change x.toModel.unpack.isFinite
      rw [stored, read]
      exact rounds.finite
    rw [le_iff_real_le finite isFinite_zero, real_zero, real_eq_number, stored, read]
    exact rounds.near.nonpos nonpos
  · exact absurd nonpos pos.not_ge
  · rw [nonpos_iff_side, side, stored, read]
    rfl

theorem nonpos_neg_mul (nonneg : 0 ≤ x) (finite' : Scalar.isFinite y) (pos : 0 < y) :
    -x * y ≤ 0 := by
  have stored : (-x * y).toModel.unpack = unpack Format.binary32 (pack Format.binary32
    (.mul .binary32 x.toModel.unpack.neg y.toModel.unpack)) := by
    rw [← unpack_neg]
    rfl
  rw [pos_iff finite', real_eq_number] at pos
  rcases isFinite_or_infinite nonneg with finite | infinite
  · rw [nonneg_iff finite, real_eq_number] at nonneg
    refine nonpos_of_rounds (.mul (isFinite_neg finite) finite' (canonical_toModel x).neg
      (canonical_toModel y)) ?_ stored
    rw [number_neg, neg_mul]
    exact neg_nonpos.mpr (mul_nonneg nonneg pos.le)
  · have product : UnpackedFloat.mul .binary32 x.toModel.unpack.neg y.toModel.unpack =
        .infinity .negative := by
      rw [infinite]
      obtain ⟨s, read⟩ | ⟨s, m, e, some, read⟩ := zero_or_finite finite' <;> rw [read] at pos ⊢
      · exact absurd pos (lt_irrefl _)
      · cases s with
        | positive => rfl
        | negative => exact absurd pos number_negative_neg.not_gt
    rw [nonpos_iff_side, side, stored, product, unpack_pack_infinity]
    rfl

/-! ### Powers of e -/

theorem result_nearestQuotient {num den : Nat} (hn : 0 < num) (hd : 0 < den) :
    Result (nearestQuotient num den hn hd) (num / den) := by
  have divides : number (.finite .positive den 0 hd) ≠ 0 := number_positive_pos.ne'
  have rounds : Rounds _ _ := .div (a := .finite .positive num 0 hn) rfl rfl divides
  rw [number_positive, number_positive, zpow_zero, mul_one, mul_one] at rounds
  exact .ofRounds rounds rfl

/-- The reciprocal of a power that is not below one. -/
theorem reciprocal_power (r : Nat) :
    let x := nearestQuotient one (power r) one_pos (power_pos r)
    Scalar.isFinite x ∧ 0 ≤ real x ∧ real x ≤ 2 := by
  have result := result_nearestQuotient one_pos (power_pos r)
  have pos : (0 : ℝ) < power r := by exact_mod_cast power_pos r
  have most : (one : ℝ) ≤ power r := by exact_mod_cast one_le_power r
  have nonneg : (0 : ℝ) ≤ one / power r := div_nonneg (Nat.cast_nonneg _) pos.le
  have small : |(one : ℝ) / power r| < 2 ^ 1 := by
    rw [abs_of_nonneg nonneg]
    exact (div_le_one_of_le₀ most pos.le).trans_lt (by norm_num)
  obtain ⟨finite, bounded⟩ := result.bounded small (by norm_num)
  refine ⟨finite, (result.near finite).nonneg nonneg, (le_abs_self _).trans ?_⟩
  exact bounded.trans (by norm_num)

theorem expFinite_negative (m : Nat) (e : Int) :
    Scalar.isFinite (expFinite .negative m e) ∧ 0 ≤ real (expFinite .negative m e) ∧
      real (expFinite .negative m e) ≤ 2 := by
  unfold expFinite
  dsimp only
  split
  · have zero : (0.0 : Float32) = 0 := rfl
    rw [zero, real_zero]
    exact ⟨rfl, le_rfl, zero_le_two⟩
  · exact reciprocal_power _

/-- The power of e of a number that is not positive, minus infinity among them. -/
theorem exp_of_nonpos (nonpos : x ≤ 0) :
    Scalar.isFinite (exp x) ∧ 0 ≤ real (exp x) ∧ real (exp x) ≤ 2 := by
  rw [nonpos_iff_side, side] at nonpos
  unfold exp
  cases read : x.toModel.unpack with
  | notANumber =>
      rw [read] at nonpos
      cases nonpos
  | infinity s =>
      rw [read] at nonpos
      cases s with
      | positive => cases nonpos
      | negative =>
          have zero : (0.0 : Float32) = 0 := rfl
          simp only [zero, real_zero]
          exact ⟨rfl, le_rfl, zero_le_two⟩
  | zero s =>
      have one : (1.0 : Float32) = 1 := rfl
      simp only [one, real_one]
      exact ⟨rfl, zero_le_one, one_le_two⟩
  | finite s m e some =>
      rw [read] at nonpos
      cases s with
      | positive => cases nonpos
      | negative => exact expFinite_negative m e

/-! ### Shares -/

theorem nonneg_nonneg (x : Float32) : 0 ≤ Scalar.nonneg x := by
  unfold Scalar.nonneg Scalar.larger
  split <;> rename_i larger
  · exact nonneg_of_pos (larger.resolve_right (by decide))
  · decide

theorem clampUnit_bounded (nonneg : 0 ≤ x) :
    Scalar.isFinite (Scalar.clampUnit x) ∧ |real (Scalar.clampUnit x)| ≤ 2 := by
  unfold Scalar.clampUnit
  split
  · rw [real_zero, abs_zero]
    exact ⟨rfl, zero_le_two⟩
  · split <;> rename_i most
    · rw [real_one, abs_one]
      exact ⟨rfl, one_le_two⟩
    · have finite : Scalar.isFinite x :=
        (isFinite_or_infinite nonneg).resolve_right fun infinite => most (infinite.lt rfl)
      rw [lt_iff_real_lt rfl finite, real_one, not_lt] at most
      rw [nonneg_iff finite] at nonneg
      rw [abs_of_nonneg nonneg]
      exact ⟨finite, most.trans one_le_two⟩

end Binary32

namespace TurnModel

open Binary32

/-- The share of a frame of a finite length, for any rate. -/
theorem share_bounded (m : TurnModel) (rate : Float32) {dt : Float32} (finite : Scalar.isFinite dt)
    (passes : 0 < dt) :
    Scalar.isFinite (m.share rate dt) ∧ |real (m.share rate dt)| ≤ 2 := by
  have nonneg := nonneg_nonneg rate
  cases m with
  | exponential =>
      obtain ⟨finite_e, low, high⟩ := exp_of_nonpos (nonpos_neg_mul nonneg finite passes)
      have result := result_sub (x := 1) rfl finite_e
      rw [real_one] at result
      have small : |1 - real (exp (-Scalar.nonneg rate * dt))| ≤ 1 := by
        rw [abs_le]
        constructor <;> linarith
      obtain ⟨finite_s, bounded⟩ :=
        result.bounded (k := 1) (small.trans_lt (by norm_num)) (by norm_num)
      exact ⟨finite_s, bounded.trans (by norm_num)⟩
  | linear => exact clampUnit_bounded (nonneg_mul nonneg finite passes)

end TurnModel

end CharacterMotion
