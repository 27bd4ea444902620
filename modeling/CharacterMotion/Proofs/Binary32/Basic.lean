import CharacterMotion.Binary32.Scalar
import CharacterMotion.Notice
import Mathlib.Algebra.Order.Ring.Rat

/-!
Single precision numbers by their side of zero, by their value and by their bits.

A number lies below zero, at zero or above it, and a NaN lies on no side (`side`); each comparison
with zero asks for a side. So a positive number is neither zero nor less, a finite number that is
not positive is zero or less, and one that is not negative is zero or more. None of this goes
without saying where some values compare with nothing and zero has two signs.

The exact value of a number is rational (`value`). Sums of values are not rounded, so that they say
what a sum of numbers in single precision only approximates.

The bits of a number are a sign, an exponent and a mantissa, and there are five kinds of them
(`unpack_cases`): everything that is said of reading a number goes by these.
-/

namespace CharacterMotion.Binary32

open Float.Model (UnpackedFloat)

/-! ### Sides of zero -/

/-- The side of zero on which a number lies. -/
def side (x : Float32) : Option Ordering := x.toModel.unpack.compare (.zero .positive)

variable {x : Float32}

/-- Zero compares with a number as the number does with zero, the other way round. -/
theorem compare_zero_left (u : UnpackedFloat) :
    (UnpackedFloat.zero .positive).compare u = (u.compare (.zero .positive)).map .swap := by
  cases u with
  | infinity sign => cases sign <;> rfl
  | notANumber => rfl
  | zero sign => rfl
  | finite sign _ _ _ => cases sign <;> rfl

theorem neg_iff_side : x < 0 ↔ side x = some .lt := by
  have less : x < 0 ↔ (side x == some .lt) = true := decide_eq_true_iff
  rw [less, beq_iff_eq]

theorem nonpos_iff_side : x ≤ 0 ↔ (side x).any (·.isLE) := decide_eq_true_iff

theorem pos_iff_side : 0 < x ↔ side x = some .gt := by
  have less : 0 < x ↔
      ((UnpackedFloat.zero .positive).compare x.toModel.unpack == some .lt) = true :=
    decide_eq_true_iff
  rw [less, beq_iff_eq, compare_zero_left]
  change (side x).map Ordering.swap = some .lt ↔ side x = some .gt
  cases side x with
  | none => simp
  | some order => cases order <;> simp

theorem nonneg_iff_side : 0 ≤ x ↔ (side x).any (·.isGE) := by
  have most :
      0 ≤ x ↔ ((UnpackedFloat.zero .positive).compare x.toModel.unpack).any (·.isLE) = true :=
    decide_eq_true_iff
  rw [most, compare_zero_left]
  change ((side x).map Ordering.swap).any (·.isLE) = true ↔ (side x).any (·.isGE) = true
  cases side x with
  | none => exact Iff.rfl
  | some order => cases order <;> exact Iff.rfl

theorem isSome_side_of_isFinite (finite : Scalar.isFinite x = true) : (side x).isSome := by
  change x.toModel.unpack.isFinite = true at finite
  unfold side
  cases unpacked : x.toModel.unpack with
  | infinity sign => rw [unpacked] at finite; cases finite
  | notANumber => rw [unpacked] at finite; cases finite
  | zero sign => rfl
  | finite sign _ _ _ => cases sign <;> rfl

theorem not_pos_zero : ¬ (0 : Float32) < 0 := by decide

theorem not_neg_of_pos (pos : 0 < x) : ¬ x < 0 := by
  rw [neg_iff_side, pos_iff_side.mp pos]
  simp

theorem not_nonpos_of_pos (pos : 0 < x) : ¬ x ≤ 0 := by
  rw [nonpos_iff_side, pos_iff_side.mp pos]
  simp

theorem nonneg_of_pos (pos : 0 < x) : 0 ≤ x := by
  rw [nonneg_iff_side, pos_iff_side.mp pos]
  rfl

theorem not_pos_iff_of_isFinite (finite : Scalar.isFinite x = true) : ¬ 0 < x ↔ x ≤ 0 := by
  obtain ⟨order, lies⟩ := Option.isSome_iff_exists.mp (isSome_side_of_isFinite finite)
  rw [pos_iff_side, nonpos_iff_side, lies]
  cases order <;> simp

theorem not_neg_iff_of_isFinite (finite : Scalar.isFinite x = true) : ¬ x < 0 ↔ 0 ≤ x := by
  obtain ⟨order, lies⟩ := Option.isSome_iff_exists.mp (isSome_side_of_isFinite finite)
  rw [neg_iff_side, nonneg_iff_side, lies]
  cases order <;> simp

/-! ### The exact value -/

/-- The value of a number that is neither infinite nor a NaN; of those it is zero. -/
def value (x : Float32) : ℚ :=
  match x.toModel.unpack with
  | .finite sign m e _ => mkRat (sign.apply (m <<< e.toNat)) (1 <<< (-e).toNat)
  | _ => 0

theorem value_nonneg {x : Float32} (nonneg : 0 ≤ x) : 0 ≤ value x := by
  have compares : (UnpackedFloat.zero .positive).le x.toModel.unpack = true :=
    of_decide_eq_true nonneg
  unfold value
  cases unpacked : x.toModel.unpack with
  | finite sign m e pos =>
      rw [unpacked] at compares
      cases sign with
      | positive => exact Rat.mkRat_nonneg (Int.natCast_nonneg _) _
      | negative => cases compares
  | _ => exact le_refl (0 : ℚ)

theorem value_nonneg_of_isTimestep {dt : Float32} (right : isTimestep dt = true) :
    0 ≤ value dt := by
  rw [isTimestep, Bool.and_eq_true, decide_eq_true_eq] at right
  exact value_nonneg right.2

/-! ### The parts of the bits -/

section Parts

open Float.Model (Format)
open Float.Model.UnpackedFloat

theorem ofBitVec_toBitVec (sign : Sign) : Sign.ofBitVec sign.toBitVec = sign := by
  cases sign <;> rfl

theorem toBitVec_ofBitVec (bit : BitVec 1) : (Sign.ofBitVec bit).toBitVec = bit := by
  decide +revert

theorem toNat_one_append (m : BitVec 23) : (1#1 ++ m).toNat = 2 ^ 23 + m.toNat := by
  rw [BitVec.toNat_append, ← Nat.shiftLeft_add_eq_or_of_lt m.isLt]
  rfl

/-- All bits are a sign, an exponent and a mantissa. -/
theorem exists_packComponents (b : BitVec 32) : ∃ (sign : Sign) (exponent : BitVec 8)
    (mantissa : BitVec 23), b = packComponents Format.binary32 sign exponent mantissa := by
  refine ⟨.ofBitVec (b.extractLsb' 31 1), b.extractLsb' 23 8, b.extractLsb' 0 23, ?_⟩
  have above : b.extractLsb' 31 1 ++ b.extractLsb' 23 8 = b.extractLsb' 23 9 :=
    BitVec.extractLsb'_append_extractLsb'_eq_extractLsb' rfl
  have all : b.extractLsb' 23 9 ++ b.extractLsb' 0 23 = b :=
    (BitVec.extractLsb'_append_extractLsb'_eq_extractLsb' rfl).trans BitVec.extractLsb'_eq_self
  rw [packComponents, toBitVec_ofBitVec, above]
  exact all.symm

theorem unpackSign_packComponents {sign : Sign} {exponent : BitVec 8} {mantissa : BitVec 23} :
    unpackSign (packComponents Format.binary32 sign exponent mantissa) = sign.toBitVec := by
  change (sign.toBitVec ++ exponent ++ mantissa).extractLsb' 31 1 = sign.toBitVec
  rw [BitVec.extractLsb'_append_eq_of_le (by omega), BitVec.extractLsb'_append_eq_of_le (by omega)]
  exact BitVec.extractLsb'_eq_self

theorem unpack_pack_zero (sign : Sign) :
    unpack Format.binary32 (pack Format.binary32 (.zero sign)) = .zero sign := by
  cases sign <;> rfl

theorem unpack_pack_infinity (sign : Sign) :
    unpack Format.binary32 (pack Format.binary32 (.infinity sign)) = .infinity sign := by
  cases sign <;> rfl

theorem unpack_notANumber {sign : Sign} {mantissa : BitVec 23} (some : mantissa ≠ 0#23) :
    unpack Format.binary32 (packComponents Format.binary32 sign (-1#8) mantissa) =
      .notANumber := by
  unfold Float.Model.UnpackedFloat.unpack
  dsimp only
  rw [unpackExponent_packComponents, if_pos rfl, unpackMantissa_packComponents, if_neg some]

theorem unpack_subnormal {sign : Sign} {mantissa : BitVec 23} (some : mantissa ≠ 0#23) :
    unpack Format.binary32 (packComponents Format.binary32 sign 0#8 mantissa) =
      .finite sign mantissa.toNat (-149)
        (by simpa [BitVec.toNat_pos, BitVec.pos_iff_ne_zero] using some) := by
  unfold Float.Model.UnpackedFloat.unpack
  dsimp only
  rw [unpackExponent_packComponents, if_neg (by decide), if_pos rfl, dif_neg]
  · congr 1
    · rw [unpackSign_packComponents, ofBitVec_toBitVec]
    · rw [unpackMantissa_packComponents]
  · rwa [unpackMantissa_packComponents]

theorem unpack_normal {sign : Sign} {field : Nat} {mantissa : BitVec 23} (low : 0 < field)
    (high : field < 255) :
    unpack Format.binary32 (packComponents Format.binary32 sign (BitVec.ofNat 8 field) mantissa) =
      .finite sign (2 ^ 23 + mantissa.toNat) (field - 150) (by omega) := by
  have stored : (BitVec.ofNat 8 field).toNat = field := Nat.mod_eq_of_lt (by omega)
  have finite : BitVec.ofNat 8 field ≠ -1#8 := fun equal => by
    have := stored ▸ congrArg BitVec.toNat equal
    exact high.ne (this.trans (by decide))
  have normal : BitVec.ofNat 8 field ≠ 0#8 := fun equal => by
    have := stored ▸ congrArg BitVec.toNat equal
    exact low.ne' this
  unfold Float.Model.UnpackedFloat.unpack
  dsimp only
  rw [unpackExponent_packComponents, if_neg finite, if_neg normal]
  congr 1
  · rw [unpackSign_packComponents, ofBitVec_toBitVec]
  · rw [toNat_one_append, unpackMantissa_packComponents]
  · rw [stored]
    rfl

/-- What bits stand for, by their parts. The greatest exponent is kept for what is not finite. -/
theorem unpack_cases (sign : Sign) (exponent : BitVec 8) (mantissa : BitVec 23) :
    let u := unpack Format.binary32 (packComponents Format.binary32 sign exponent mantissa)
    exponent = -1#8 ∧ (mantissa = 0#23 ∧ u = .infinity sign ∨
      mantissa ≠ 0#23 ∧ u = .notANumber) ∨
    exponent = 0#8 ∧ (mantissa = 0#23 ∧ u = .zero sign ∨
      ∃ some, u = .finite sign mantissa.toNat (-149) some) ∨
    0 < exponent.toNat ∧ exponent.toNat < 255 ∧
      ∃ some, u = .finite sign (2 ^ 23 + mantissa.toNat) (exponent.toNat - 150) some := by
  intro u
  by_cases greatest : exponent = -1#8
  · refine .inl ⟨greatest, ?_⟩
    subst greatest
    by_cases none : mantissa = 0#23
    · subst none
      exact .inl ⟨rfl, unpack_pack_infinity sign⟩
    · exact .inr ⟨none, unpack_notANumber none⟩
  by_cases least : exponent = 0#8
  · refine .inr (.inl ⟨least, ?_⟩)
    subst least
    by_cases none : mantissa = 0#23
    · subst none
      exact .inl ⟨rfl, unpack_pack_zero sign⟩
    · exact .inr ⟨_, unpack_subnormal none⟩
  have high : exponent.toNat < 255 := by
    have := exponent.isLt
    have : exponent.toNat ≠ 255 := fun equal => greatest (BitVec.eq_of_toNat_eq equal)
    omega
  have low : 0 < exponent.toNat :=
    Nat.pos_of_ne_zero fun equal => least (BitVec.eq_of_toNat_eq equal)
  have read := @unpack_normal sign exponent.toNat mantissa low high
  rw [BitVec.ofNat_toNat, BitVec.setWidth_eq] at read
  exact .inr (.inr ⟨low, high, _, read⟩)

end Parts

end CharacterMotion.Binary32
