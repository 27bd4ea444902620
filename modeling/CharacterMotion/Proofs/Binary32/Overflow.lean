import CharacterMotion.Proofs.Binary32.Arithmetic

/-!
Results out of range. A finite result has finite operands, so that no infinity is forgotten on the
way to it. Sums, products and roots of numbers that are not negative may be infinite, but they are
never NaN (`nonneg_add`, `nonneg_mul`, `nonneg_sqrt`).
-/

namespace CharacterMotion.Binary32

open Float.Model (Format UnpackedFloat)
open Float.Model.UnpackedFloat (Sign pack unpack)

variable {x y : Float32}

/-! ### Operands of finite results -/

theorem isFinite_of_unpack_pack {u : UnpackedFloat}
    (finite : (unpack Format.binary32 (pack Format.binary32 u)).isFinite) : u.isFinite := by
  cases u with
  | infinity s =>
      rw [unpack_pack_infinity] at finite
      cases finite
  | notANumber => cases finite
  | zero s => rfl
  | finite s m e some => rfl

theorem isFinite_of_mul (finite : Scalar.isFinite (x * y)) :
    Scalar.isFinite x ∧ Scalar.isFinite y := by
  have operands {a b : UnpackedFloat} (product : (UnpackedFloat.mul .binary32 a b).isFinite) :
      a.isFinite ∧ b.isFinite := by
    cases a <;> cases b <;> first | exact ⟨rfl, rfl⟩ | cases product
  exact operands (isFinite_of_unpack_pack finite)

theorem isFinite_of_add (finite : Scalar.isFinite (x + y)) :
    Scalar.isFinite x ∧ Scalar.isFinite y := by
  have operands {a b : UnpackedFloat} (sum : (UnpackedFloat.add .binary32 a b).isFinite) :
      a.isFinite ∧ b.isFinite := by
    cases a with
    | infinity s =>
        cases b with
        | infinity s' => cases s <;> cases s' <;> cases sum
        | _ => cases sum
    | _ => cases b <;> first | exact ⟨rfl, rfl⟩ | cases sum
  exact operands (isFinite_of_unpack_pack finite)

theorem isFinite_of_sqrt (finite : Scalar.isFinite (Scalar.sqrt x)) :
    Scalar.isFinite x ∧ 0 ≤ real x := by
  have operand {a : UnpackedFloat} (root : (UnpackedFloat.sqrt .binary32 a).isFinite) :
      a.isFinite ∧ 0 ≤ number a := by
    cases a with
    | infinity s => cases s <;> cases root
    | notANumber => cases root
    | zero s => exact ⟨rfl, le_rfl⟩
    | finite s m e some =>
        cases s with
        | positive => exact ⟨rfl, number_positive_pos.le⟩
        | negative => cases root
  rw [real_eq_number]
  exact operand (isFinite_of_unpack_pack finite)

/-- Only a finite number other than zero has a reciprocal that is finite and above zero. -/
theorem isFinite_of_one_div (finite : Scalar.isFinite (1 / x)) (pos : 0 < 1 / x) :
    Scalar.isFinite x ∧ real x ≠ 0 := by
  have read : (1 / x).toModel.unpack = unpack Format.binary32 (pack Format.binary32
    (.div .binary32 (1 : Float32).toModel.unpack x.toModel.unpack)) := rfl
  have quotient : (UnpackedFloat.div .binary32 (1 : Float32).toModel.unpack
      x.toModel.unpack).isFinite := isFinite_of_unpack_pack finite
  rw [pos_iff_side, side, read] at pos
  rw [real_eq_number]
  change x.toModel.unpack.isFinite ∧ number x.toModel.unpack ≠ 0
  cases unpacked : x.toModel.unpack with
  | infinity s => rw [unpacked] at pos; cases s <;> cases pos
  | notANumber => rw [unpacked] at quotient; cases quotient
  | zero s => rw [unpacked] at quotient; cases quotient
  | finite s m e some =>
      cases s with
      | positive => exact ⟨rfl, number_positive_pos.ne'⟩
      | negative => exact ⟨rfl, number_negative_neg.ne⟩

/-! ### Infinity -/

/-- Positive infinity. -/
def Infinite (x : Float32) : Prop := x.toModel.unpack = .infinity .positive

theorem isFinite_or_infinite (nonneg : 0 ≤ x) : Scalar.isFinite x ∨ Infinite x := by
  change x.toModel.unpack.isFinite ∨ x.toModel.unpack = .infinity .positive
  rw [nonneg_iff_side, side] at nonneg
  cases unpacked : x.toModel.unpack with
  | infinity s =>
      rw [unpacked] at nonneg
      cases s with
      | positive => exact .inr rfl
      | negative => cases nonneg
  | notANumber => rw [unpacked] at nonneg; cases nonneg
  | zero s => exact .inl rfl
  | finite s m e some => exact .inl rfl

namespace Infinite

theorem of_stored {u : UnpackedFloat} (infinite : u = .infinity .positive)
    (stored : x.toModel.unpack = unpack Format.binary32 (pack Format.binary32 u)) :
    Infinite x := by
  rw [Infinite, stored, infinite, unpack_pack_infinity]

theorem nonneg (infinite : Infinite x) : 0 ≤ x := by
  rw [nonneg_iff_side, side, infinite]
  rfl

theorem compare_eq_lt (infinite : Infinite y) (finite : Scalar.isFinite x) :
    x.toModel.unpack.compare y.toModel.unpack = some .lt := by
  rw [infinite]
  obtain ⟨s, read⟩ | ⟨s, m, e, some, read⟩ := zero_or_finite finite <;> rw [read]
  · rfl
  · cases s <;> rfl

theorem lt (infinite : Infinite y) (finite : Scalar.isFinite x) : x < y := by
  rw [lt_iff_compare, infinite.compare_eq_lt finite]
  rfl

theorem le (infinite : Infinite y) (finite : Scalar.isFinite x) : x ≤ y := by
  rw [le_iff_compare, infinite.compare_eq_lt finite]
  rfl

theorem not_lt (infinite : Infinite y) (finite : Scalar.isFinite x) : ¬ y < x := by
  rw [lt_iff_compare, infinite]
  obtain ⟨s, read⟩ | ⟨s, m, e, some, read⟩ := zero_or_finite finite <;> rw [read]
  · exact Bool.false_ne_true
  · cases s <;> exact Bool.false_ne_true

/-- A finite number divided by infinity is zero. -/
theorem div (infinite : Infinite y) (finite : Scalar.isFinite x) :
    Scalar.isFinite (x / y) ∧ real (x / y) = 0 := by
  have quotient : ∃ s, UnpackedFloat.div .binary32 x.toModel.unpack y.toModel.unpack = .zero s := by
    rw [infinite]
    obtain ⟨s, read⟩ | ⟨s, m, e, some, read⟩ := zero_or_finite finite <;> rw [read] <;>
      exact ⟨_, rfl⟩
  obtain ⟨s, none⟩ := quotient
  have read : (x / y).toModel.unpack = .zero s := by
    change unpack Format.binary32 (pack Format.binary32
      (.div .binary32 x.toModel.unpack y.toModel.unpack)) = _
    rw [none, unpack_pack_zero]
  rw [real_eq_number]
  change (x / y).toModel.unpack.isFinite ∧ _
  rw [read]
  exact ⟨rfl, rfl⟩

theorem add_left (infinite : Infinite x) (nonneg : 0 ≤ y) : Infinite (x + y) := by
  refine of_stored (u := .add .binary32 x.toModel.unpack y.toModel.unpack) ?_ rfl
  rw [infinite]
  rcases isFinite_or_infinite nonneg with finite | infinite
  · obtain ⟨s, read⟩ | ⟨s, m, e, some, read⟩ := zero_or_finite finite <;> rw [read] <;> rfl
  · rw [infinite]
    rfl

theorem add_right (infinite : Infinite y) (finite : Scalar.isFinite x) : Infinite (x + y) := by
  refine of_stored (u := .add .binary32 x.toModel.unpack y.toModel.unpack) ?_ rfl
  rw [infinite]
  obtain ⟨s, read⟩ | ⟨s, m, e, some, read⟩ := zero_or_finite finite <;> rw [read] <;> rfl

theorem mul (infinite : Infinite x) (finite : Scalar.isFinite y) (pos : 0 < y) :
    Infinite (x * y) := by
  refine of_stored (u := .mul .binary32 x.toModel.unpack y.toModel.unpack) ?_ rfl
  rw [pos_iff finite, real_eq_number] at pos
  rw [infinite]
  obtain ⟨s, read⟩ | ⟨s, m, e, some, read⟩ := zero_or_finite finite <;> rw [read] at pos ⊢
  · exact absurd pos (lt_irrefl _)
  · cases s with
    | positive => rfl
    | negative => exact absurd pos number_negative_neg.not_gt

theorem sqrt (infinite : Infinite x) : Infinite (Scalar.sqrt x) := by
  refine of_stored (u := .sqrt .binary32 x.toModel.unpack) ?_ rfl
  rw [infinite]
  rfl

end Infinite

/-! ### Numbers that are not negative -/

theorem nonneg_add (nonneg : 0 ≤ x) (nonneg' : 0 ≤ y) : 0 ≤ x + y := by
  rcases isFinite_or_infinite nonneg with finite | infinite
  · rcases isFinite_or_infinite nonneg' with finite' | infinite'
    · refine (result_add finite finite').nonneg ?_
      exact add_nonneg ((nonneg_iff finite).mp nonneg) ((nonneg_iff finite').mp nonneg')
    · exact (infinite'.add_right finite).nonneg
  · exact (infinite.add_left nonneg').nonneg

theorem nonneg_mul (nonneg : 0 ≤ x) (finite' : Scalar.isFinite y) (pos : 0 < y) : 0 ≤ x * y := by
  rcases isFinite_or_infinite nonneg with finite | infinite
  · refine (result_mul finite finite').nonneg ?_
    exact mul_nonneg ((nonneg_iff finite).mp nonneg) ((pos_iff finite').mp pos).le
  · exact (infinite.mul finite' pos).nonneg

theorem nonneg_sqrt (nonneg : 0 ≤ x) : 0 ≤ Scalar.sqrt x := by
  rcases isFinite_or_infinite nonneg with finite | infinite
  · exact (result_sqrt finite ((nonneg_iff finite).mp nonneg)).nonneg (Real.sqrt_nonneg _)
  · exact infinite.sqrt.nonneg

end CharacterMotion.Binary32
