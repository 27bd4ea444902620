import CharacterMotion.Proofs.Binary32.Basic
import Mathlib.Algebra.Order.Ring.Nat

/-!
How large the results of single precision operations are at most, in powers of two.

Rounding takes a value below `2 ^ k` to a value below `2 ^ (k + 1)` (`Bounded.roundWithAccuracy`);
that it stays below `2 ^ k` or becomes that power is not needed here. A value this far below the
greatest number is stored and read back without getting larger (`Bounded.unpack_pack`). So sums,
products and quotients of small numbers are finite numbers, with a bound that grows by a few powers
of two with every operation (`Below.add`, `Below.mul`, `Below.div`).
-/

namespace CharacterMotion.Binary32

open Float.Model (Format UnpackedFloat totalExponent)
open Float.Model.UnpackedFloat

/-- Zero, or a finite number of a magnitude below `2 ^ k`. -/
inductive Bounded (k : Int) : UnpackedFloat → Prop
  | zero (sign : Sign) : Bounded k (.zero sign)
  | finite {sign : Sign} {m : Nat} {e : Int} {some : 0 < m} (fits : m < 2 ^ (k - e).toNat) :
      Bounded k (.finite sign m e some)

instance (k : Int) : (u : UnpackedFloat) → Decidable (Bounded k u)
  | .zero sign => .isTrue (.zero sign)
  | .finite _ m e _ =>
      decidable_of_iff (m < 2 ^ (k - e).toNat) ⟨.finite, fun | .finite fits => fits⟩
  | .infinity _ => .isFalse nofun
  | .notANumber => .isFalse nofun

/-- Finite, and with an exponent that is not negative: a whole number, and not zero. -/
inductive Whole : UnpackedFloat → Prop
  | finite {sign : Sign} {m : Nat} {e : Int} {some : 0 < m} (integral : 0 ≤ e) :
      Whole (.finite sign m e some)

instance : (u : UnpackedFloat) → Decidable (Whole u)
  | .finite _ _ e _ => decidable_of_iff (0 ≤ e) ⟨.finite, fun | .finite integral => integral⟩
  | .zero _ => .isFalse nofun
  | .infinity _ => .isFalse nofun
  | .notANumber => .isFalse nofun

/-! ### Scaling -/

section

variable {k e : Int} {m : Nat}

theorem exponent_lt (fits : m < 2 ^ (k - e).toNat) (some : 0 < m) : e < k := by
  by_contra high
  rw [Int.toNat_of_nonpos (by omega)] at fits
  omega

theorem shiftRight_lt (fits : m < 2 ^ (k - e).toNat) (s : Nat) :
    m / 2 ^ s < 2 ^ (k - (e + s)).toNat := by
  rw [Nat.div_lt_iff_lt_mul (Nat.two_pow_pos s), ← pow_add]
  exact fits.trans_le (Nat.pow_le_pow_right Nat.two_pos (by omega))

theorem shiftLeft_lt (fits : m < 2 ^ (k - e).toNat) (s : Nat) :
    m <<< s < 2 ^ (k - (e - s)).toNat := by
  rw [Nat.shiftLeft_eq]
  rcases Nat.eq_zero_or_pos m with rfl | some
  · rw [zero_mul]
    exact Nat.two_pow_pos _
  · have low := exponent_lt fits some
    have exponent : (k - (e - s)).toNat = (k - e).toNat + s := by omega
    rw [exponent, pow_add]
    exact Nat.mul_lt_mul_of_pos_right fits (Nat.two_pow_pos s)

theorem totalExponent_le (fits : m < 2 ^ (k - e).toNat) (low : e ≤ k) :
    totalExponent m e ≤ k + 1 := by
  unfold totalExponent
  rcases Nat.eq_zero_or_pos m with rfl | some
  · simp only [Nat.log2_zero]
    omega
  · have digits := (Nat.log2_lt some.ne').mpr fits
    omega

end

theorem natAbs_apply_add_lt {m₁ m₂ n : Nat} (first : m₁ < n) (second : m₂ < n) (s₁ s₂ : Sign) :
    (s₁.apply m₁ + s₂.apply m₂).natAbs < n * 2 := by
  cases s₁ <;> cases s₂ <;> dsimp only [Sign.apply] <;> omega

/-! ### Rounding -/

theorem mantissa_shiftRight (em : ExtendedMantissa) (s : Nat) :
    (em >>> s).mantissa = em.mantissa / 2 ^ s := by
  change (s.repeat ExtendedMantissa.shiftRightOne em).mantissa = _
  induction s with
  | zero => exact (Nat.div_one _).symm
  | succ s ih =>
      change (s.repeat ExtendedMantissa.shiftRightOne em).mantissa / 2 = _
      rw [ih, Nat.div_div_eq_div_mul, pow_succ]

theorem roundedMantissa_le (em : ExtendedMantissa) : em.roundedMantissa ≤ em.mantissa + 1 := by
  unfold ExtendedMantissa.roundedMantissa Accuracy.roundToNearestEven
  split <;> omega

theorem mantissa_ofMantissaAndAccuracy (m : Nat) (accuracy : Accuracy) :
    (ExtendedMantissa.ofMantissaAndAccuracy m accuracy).mantissa = m := by
  unfold ExtendedMantissa.ofMantissaAndAccuracy
  split <;> rfl

theorem shiftToTargetExponent_eq (m : Nat) (e : Int) (accuracy : Accuracy) : ∃ s : Nat,
    s = (Format.binary32.targetExponent (totalExponent m e) - e).toNat ∧
    (shiftToTargetExponent Format.binary32 m e accuracy).1.mantissa = m / 2 ^ s ∧
    (shiftToTargetExponent Format.binary32 m e accuracy).2 = e + s := by
  refine ⟨_, rfl, ?_, rfl⟩
  unfold shiftToTargetExponent shiftToExponent
  rw [mantissa_shiftRight, mantissa_ofMantissaAndAccuracy]

namespace Bounded

protected theorem roundWithAccuracy {k e : Int} {m : Nat} (fits : m < 2 ^ (k - e).toNat)
    (low : e ≤ k) (normal : -126 ≤ k) (sign : Sign) (accuracy : Accuracy) :
    Bounded (k + 1) (roundWithAccuracy Format.binary32 sign m e accuracy) := by
  obtain ⟨s, shift, mantissa, exponent⟩ := shiftToTargetExponent_eq m e accuracy
  have shifted_low : e + s ≤ k := by
    have total := totalExponent_le fits low
    have target (t : Int) : Format.binary32.targetExponent t = max (t - 24) (-149) := rfl
    rw [target] at shift
    omega
  unfold Float.Model.UnpackedFloat.roundWithAccuracy
  generalize shiftToTargetExponent Format.binary32 m e accuracy = first at mantissa exponent
  obtain ⟨em, e'⟩ := first
  dsimp only at mantissa exponent ⊢
  subst exponent
  -- Rounding up may reach the power of two that bounds the shifted mantissa, no more.
  have rounded : em.roundedMantissa < 2 ^ (k + 1 - (e + s)).toNat := by
    have most : em.roundedMantissa ≤ 2 ^ (k - (e + s)).toNat := by
      have less := shiftRight_lt fits s
      have step := roundedMantissa_le em
      omega
    exact most.trans_lt (Nat.pow_lt_pow_right (by omega) (by omega))
  obtain ⟨s', -, final, final_exponent⟩ :=
    shiftToTargetExponent_eq em.roundedMantissa (e + s) .exact
  by_cases empty :
      (shiftToTargetExponent Format.binary32 em.roundedMantissa (e + s) .exact).1.mantissa = 0
  · rw [dif_pos empty]
    exact .zero sign
  · rw [dif_neg empty]
    refine .finite ?_
    rw [final, final_exponent]
    exact shiftRight_lt rounded s'

protected theorem round {k e : Int} {m : Nat} (fits : m < 2 ^ (k - e).toNat) (some : 0 < m)
    (normal : -126 ≤ k) (sign : Sign) : Bounded (k + 1) (round Format.binary32 sign m e) := by
  have low := exponent_lt fits some
  exact .roundWithAccuracy (shiftLeft_lt fits _) (by omega) normal sign .exact

protected theorem normalize {k e m : Int} (fits : m.natAbs < 2 ^ (k - e).toNat)
    (normal : -126 ≤ k) (sign : Sign) :
    Bounded (k + 1) (normalize Format.binary32 m e sign) := by
  unfold Float.Model.UnpackedFloat.normalize
  split <;> rename_i order
  · have negative := Int.compare_eq_lt.mp order
    have magnitude : (-m).toNat = m.natAbs := by omega
    exact .round (magnitude ▸ fits) (by omega) normal .negative
  · exact .zero sign
  · have positive := Int.compare_eq_gt.mp order
    have magnitude : m.toNat = m.natAbs := by omega
    exact .round (magnitude ▸ fits) (by omega) normal .positive

/-! ### Operations -/

variable {k j : Int} {a b : UnpackedFloat}

theorem mono (bounded : Bounded k a) (le : k ≤ j) : Bounded j a := by
  cases bounded with
  | zero sign => exact .zero sign
  | finite fits =>
      exact .finite (fits.trans_le (Nat.pow_le_pow_right Nat.two_pos (by omega)))

protected theorem add (left : Bounded k a) (right : Bounded k b) (normal : -126 ≤ k) :
    Bounded (k + 2) (add Format.binary32 a b) := by
  have wider : k ≤ k + 2 := by omega
  cases left with
  | zero sign =>
      cases right with
      | zero sign' =>
          unfold Float.Model.UnpackedFloat.add
          dsimp only
          split
          · exact .zero sign
          · exact .zero .positive
      | finite fits => exact .mono (.finite fits) wider
  | @finite s₁ m₁ e₁ some₁ left =>
      cases right with
      | zero sign => exact .mono (.finite left) wider
      | @finite s₂ m₂ e₂ some₂ right =>
          have first := shiftLeft_lt left (e₁ - min e₁ e₂).toNat
          have second := shiftLeft_lt right (e₂ - min e₁ e₂).toNat
          have low := exponent_lt left some₁
          have exponent₁ : e₁ - ((e₁ - min e₁ e₂).toNat : Int) = min e₁ e₂ := by omega
          have exponent₂ : e₂ - ((e₂ - min e₁ e₂).toNat : Int) = min e₁ e₂ := by omega
          rw [exponent₁] at first
          rw [exponent₂] at second
          have double : (k + 1 - min e₁ e₂).toNat = (k - min e₁ e₂).toNat + 1 := by omega
          have sum : (s₁.apply (m₁ <<< (e₁ - min e₁ e₂).toNat) +
              s₂.apply (m₂ <<< (e₂ - min e₁ e₂).toNat)).natAbs <
                2 ^ (k + 1 - min e₁ e₂).toNat := by
            rw [double, pow_succ]
            exact natAbs_apply_add_lt first second s₁ s₂
          exact (Bounded.normalize sum (by omega) .positive).mono (by omega)

protected theorem mul (left : Bounded k a) (right : Bounded j b) (normal : -126 ≤ k + j) :
    Bounded (k + j + 1) (mul Format.binary32 a b) := by
  cases left with
  | zero sign =>
      cases right with
      | zero sign' => exact .zero _
      | finite fits => exact .zero _
  | @finite s₁ m₁ e₁ some₁ left =>
      cases right with
      | zero sign => exact .zero _
      | @finite s₂ m₂ e₂ some₂ right =>
          have low₁ := exponent_lt left some₁
          have low₂ := exponent_lt right some₂
          have exponent : (k + j - (e₁ + e₂)).toNat = (k - e₁).toNat + (j - e₂).toNat := by omega
          refine .roundWithAccuracy ?_ (by omega) normal (s₁ * s₂) .exact
          rw [exponent, pow_add]
          exact Nat.mul_lt_mul'' left right

/-- A quotient is not larger than its dividend if the divisor is a whole number. -/
protected theorem div (left : Bounded k a) (whole : Whole b) (normal : -126 ≤ k) :
    Bounded (k + 1) (div Format.binary32 a b) := by
  cases whole with
  | @finite s₂ m₂ e₂ some₂ integral =>
      cases left with
      | zero sign => exact .zero _
      | @finite s₁ m₁ e₁ some₁ left =>
          have low := exponent_lt left some₁
          have dividend : m₁ < 2 ^ (k - (e₁ - e₂)).toNat :=
            left.trans_le (Nat.pow_le_pow_right Nat.two_pos (by omega))
          refine .roundWithAccuracy ?_ ?_ normal ..
          · generalize Format.binary32.targetExponent _ = target
            have shifted := shiftLeft_lt dividend (e₁ - e₂ - min (e₁ - e₂) target).toNat
            have exponent : e₁ - e₂ - ((e₁ - e₂ - min (e₁ - e₂) target).toNat : Int) =
                min (e₁ - e₂) target := by omega
            rw [exponent] at shifted
            exact (Nat.div_le_self ..).trans_lt shifted
          · omega

/-! ### Storing and reading back -/

/-- A stored number is bounded by its exponent. -/
protected theorem unpack {sign : Sign} {exponent : BitVec 8} {mantissa : BitVec 23}
    (finite : exponent.toNat < 255) (small : exponent.toNat ≤ k + 126) (normal : -126 ≤ k) :
    Bounded k (unpack Format.binary32 (packComponents Format.binary32 sign exponent mantissa)) := by
  have digits : mantissa.toNat < 2 ^ 23 := mantissa.isLt
  obtain ⟨rfl, -⟩ | ⟨rfl, ⟨-, read⟩ | ⟨some, read⟩⟩ | ⟨low, -, some, read⟩ :=
    unpack_cases sign exponent mantissa
  · exact absurd finite (by decide)
  · rw [read]
    exact .zero sign
  · rw [read]
    exact .finite (digits.trans_le (Nat.pow_le_pow_right Nat.two_pos (by omega)))
  · rw [read]
    refine .finite ?_
    have doubled : 2 ^ 24 ≤ 2 ^ (k - (exponent.toNat - 150)).toNat :=
      Nat.pow_le_pow_right Nat.two_pos (by omega)
    omega

theorem unpack_pack (bounded : Bounded k a) (normal : -126 ≤ k) (small : k ≤ 100) :
    Bounded k (unpack Format.binary32 (pack Format.binary32 a)) := by
  have least : ((0#8).toNat : Int) ≤ k + 126 := by
    change (0 : Int) ≤ k + 126
    omega
  cases bounded with
  | zero sign => exact .unpack (by decide) least normal
  | @finite sign m e some fits =>
      have low := exponent_lt fits some
      have bias : e + Format.binary32.exponentBias + Format.binary32.mantissaBitsWithoutImplicit =
          e + 150 := by
        change e + 127 + 23 = e + 150
        omega
      have finite : ¬ 2 ^ 8 ≤ (e + 150).toNat + 1 := by omega
      unfold pack
      dsimp only
      rw [bias, if_neg finite]
      split <;> rename_i digits
      · -- A mantissa of full length says how large the number is at least.
        have full : 24 ≤ (k - e).toNat := by
          have long : m.log2 = 23 := Nat.succ.inj digits
          have upper := (Nat.log2_lt some.ne').mpr fits
          omega
        have field : (BitVec.ofNat 8 (e + 150).toNat).toNat = (e + 150).toNat :=
          Nat.mod_eq_of_lt (by omega)
        exact .unpack (by omega) (by omega) normal
      · exact .unpack (by decide) least normal

end Bounded

/-! ### Single precision numbers -/

/-- Finite and of a magnitude below `2 ^ k`. -/
def Below (k : Int) (x : Float32) : Prop := Bounded k x.toModel.unpack

instance (k : Int) (x : Float32) : Decidable (Below k x) :=
  inferInstanceAs (Decidable (Bounded k x.toModel.unpack))

namespace Below

variable {k j : Int} {x y : Float32}

theorem isFinite (below : Below k x) : Scalar.isFinite x = true := by
  change x.toModel.unpack.isFinite = true
  unfold Below at below
  generalize x.toModel.unpack = u at below
  cases below with
  | zero sign => rfl
  | finite fits => rfl

theorem mono (below : Below k x) (le : k ≤ j) : Below j x := Bounded.mono below le

protected theorem add (left : Below k x) (right : Below k y) (normal : -126 ≤ k) (small : k ≤ 98) :
    Below (k + 2) (x + y) :=
  .unpack_pack (.add left right normal) (by omega) (by omega)

protected theorem mul (left : Below k x) (right : Below j y) (normal : -126 ≤ k + j)
    (small : k + j ≤ 99) : Below (k + j + 1) (x * y) :=
  .unpack_pack (.mul left right normal) (by omega) (by omega)

protected theorem div (left : Below k x) (whole : Whole y.toModel.unpack) (normal : -126 ≤ k)
    (small : k ≤ 99) : Below (k + 1) (x / y) :=
  .unpack_pack (.div left whole normal) (by omega) (by omega)

theorem toFloat32 {n : UInt64} {bits : Nat} (fits : n.toNat < 2 ^ bits) (small : bits ≤ 99) :
    Below (bits + 1) n.toFloat32 := by
  have exponent : ((bits : Int) - 0).toNat = bits := by omega
  have rounded : Bounded (bits + 1) (UnpackedFloat.ofUInt64 Format.binary32 n) :=
    Bounded.normalize (by rw [exponent]; exact fits) (by omega) .positive
  exact rounded.unpack_pack (by omega) (by omega)

end Below

theorem Bounded.ofScientific {n bits : Nat} (fits : n < 2 ^ bits) :
    Bounded (bits + 2) (UnpackedFloat.ofScientific Format.binary32 n 0) := by
  unfold UnpackedFloat.ofScientific
  by_cases none : n = 0
  · rw [dif_pos none]
    exact .zero _
  · have exponent : ((bits : Int) - 0).toNat = bits := by omega
    have shifted_pos : 0 < n <<< 24 := by
      rw [Nat.shiftLeft_eq]
      omega
    have shifted := shiftLeft_lt (k := bits) (e := 0) (exponent.symm ▸ fits) 24
    have scaled : Bounded bits (.finite .positive (n <<< 24) (-24) shifted_pos) := .finite shifted
    have one : Bounded 1 (.finite .positive 1 0 Nat.one_pos) := by decide
    have large : ¬ (0 : Int) < -(2 ^ Format.binary32.exponentBits + (n.log2 : Int)) := by
      change ¬ (0 : Int) < -(2 ^ 8 + (n.log2 : Int))
      omega
    rw [dif_neg none, if_neg (by decide), if_neg large, if_pos (Int.le_refl 0)]
    exact (scaled.mul one (by omega)).mono (by omega)

/-- Natural numbers are rounded to numbers of about their size. -/
theorem Below.ofNat {n : Nat} (bits : Nat) (fits : n < 2 ^ bits) (small : bits ≤ 97) :
    Below (bits + 3) (Scalar.ofNat n : Float32) := by
  change Below _ (Float32.ofScientific n false 0)
  unfold Float32.ofScientific
  split
  · rename_i short
    have same : n.toUInt64.toNat = n := Nat.mod_eq_of_lt (short.1.trans (by decide))
    have one : Below 1 (Float32.ofBits 0x3F800000) := by decide
    have product := (Below.toFloat32 (same.symm ▸ fits) (by omega)).mul one (by omega) (by omega)
    exact product.mono (by omega)
  · exact (Bounded.unpack_pack (.ofScientific fits) (by omega) (by omega)).mono (by omega)

end CharacterMotion.Binary32
