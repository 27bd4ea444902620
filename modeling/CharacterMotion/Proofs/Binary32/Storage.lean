import CharacterMotion.Proofs.Binary32.Rounding

/-!
Reading what was stored, and storing what was read. A number that is read has the form and the range
of the format (`stored_unpack`), and what has that form is read as it was stored, or as infinite
where its exponent is out of range (`unpack_pack_of_fits`). So a rounded number is lost only if it is
too large (`Rounds.unpack_pack`), and a number that is read and stored again is the same
(`ofModel_pack_unpack`).
-/

namespace CharacterMotion.Binary32

open Float.Model (Format UnpackedFloat)
open Float.Model.UnpackedFloat

/-! ### What is read -/

/-- In the form and the range of the format. -/
def Stored : UnpackedFloat → Prop
  | .finite _ m e _ => Fits m e ∧ e ≤ 104
  | _ => True

theorem Stored.canonical {u : UnpackedFloat} (stored : Stored u) : Canonical u := by
  cases u with
  | finite sign m e some => exact stored.1
  | _ => trivial

theorem stored_unpack (b : BitVec 32) : Stored (unpack Format.binary32 b) := by
  obtain ⟨sign, exponent, mantissa, rfl⟩ := exists_packComponents b
  have digits : mantissa.toNat < 2 ^ 23 := mantissa.isLt
  obtain ⟨-, ⟨-, read⟩ | ⟨-, read⟩⟩ | ⟨-, ⟨-, read⟩ | ⟨some, read⟩⟩ | ⟨low, high, some, read⟩ :=
    unpack_cases sign exponent mantissa <;> rw [read]
  · trivial
  · trivial
  · trivial
  · exact ⟨⟨by omega, by omega, .inr rfl⟩, by omega⟩
  · exact ⟨⟨by omega, by omega, .inl (by omega)⟩, by omega⟩

/-! ### What is read again -/

/-- How a number of the format is stored. The leading digit of a normal number is left out. -/
theorem pack_of_fits {sign : Sign} {m : Nat} {e : Int} {some : 0 < m} (fits : Fits m e) :
    pack Format.binary32 (.finite sign m e some) =
      if e ≤ 104 then
        packComponents Format.binary32 sign
          (if 2 ^ 23 ≤ m then BitVec.ofNat 8 (e + 150).toNat else 0#8) (BitVec.ofNat 23 m)
      else packedInfinity Format.binary32 sign := by
  have bias : e + Format.binary32.exponentBias + Format.binary32.mantissaBitsWithoutImplicit =
      e + 150 := by
    change e + 127 + 23 = e + 150
    omega
  have normal : m.log2 + 1 = Format.binary32.mantissaBits ↔ 2 ^ 23 ≤ m := by
    have upper : m.log2 < 24 := (Nat.log2_lt some.ne').mpr fits.short
    have lower := Nat.le_log2 (k := 23) some.ne'
    change m.log2 + 1 = 24 ↔ 2 ^ 23 ≤ m
    omega
  have low := fits.low
  unfold pack
  dsimp only
  rw [bias]
  by_cases ranged : e ≤ 104
  · rw [if_pos ranged, if_neg (by omega)]
    simp only [normal]
    split <;> rfl
  · rw [if_neg ranged, if_pos (by omega)]

/-- Storing a number of the format loses nothing unless the number is out of range. -/
theorem unpack_pack_of_fits {sign : Sign} {m : Nat} {e : Int} {some : 0 < m} (fits : Fits m e) :
    unpack Format.binary32 (pack Format.binary32 (.finite sign m e some)) =
      if e ≤ 104 then .finite sign m e some else .infinity sign := by
  rw [pack_of_fits fits]
  obtain ⟨short, low, full⟩ := fits
  by_cases ranged : e ≤ 104
  · rw [if_pos ranged, if_pos ranged]
    by_cases long : 2 ^ 23 ≤ m
    · rw [if_pos long, unpack_normal (by omega) (by omega)]
      congr 1
      · rw [BitVec.toNat_ofNat]
        omega
      · omega
    · have stored : (BitVec.ofNat 23 m).toNat = m := Nat.mod_eq_of_lt (not_le.mp long)
      rw [if_neg long, unpack_subnormal]
      · congr 1
        omega
      · intro empty
        exact some.ne' (stored ▸ congrArg BitVec.toNat empty)
  · rw [if_neg ranged, if_neg ranged]
    exact unpack_pack_infinity sign

/-- A number out of range is large. -/
theorem Fits.lt_of_not_ranged {m : Nat} {e : Int} (fits : Fits m e) (out : ¬ e ≤ 104) :
    (2 : ℝ) ^ 127 < m * 2 ^ e := by
  have full : 2 ^ 23 ≤ m := by
    have := fits.full
    omega
  have mantissa : (2 : ℝ) ^ 23 ≤ m := by exact_mod_cast full
  have exponent : (2 : ℝ) ^ 105 ≤ 2 ^ e := by
    rw [← zpow_natCast]
    exact zpow_le_zpow_right₀ one_le_two (by omega)
  calc (2 : ℝ) ^ 127 < (2 : ℝ) ^ 23 * 2 ^ 105 := by norm_num
    _ ≤ (m : ℝ) * 2 ^ e := mul_le_mul mantissa exponent (by positivity) (by positivity)

/-- What is rounded and stored is read as it was rounded, or as infinite where the exact number was
too large. -/
theorem Rounds.unpack_pack {u : UnpackedFloat} {r : ℝ} (rounds : Rounds u r) :
    let read := unpack Format.binary32 (pack Format.binary32 u)
    read = u ∨ 2 ^ 127 ≤ |r| ∧
      (0 < r ∧ read = .infinity .positive ∨ r < 0 ∧ read = .infinity .negative) := by
  obtain ⟨finite, canonical, near⟩ := rounds
  obtain ⟨s, rfl⟩ | ⟨s, m, e, some, rfl⟩ := zero_or_finite finite
  · exact .inl (unpack_pack_zero s)
  · dsimp only
    rw [unpack_pack_of_fits canonical]
    by_cases ranged : e ≤ 104
    · exact .inl (if_pos ranged)
    · rw [if_neg ranged]
      have large := canonical.lt_of_not_ranged ranged
      have magnitude : |number (.finite s m e some)| = m * 2 ^ e := abs_number
      rw [← magnitude] at large
      refine .inr ⟨not_lt.mp fun less => (near.bounded 127 less).not_gt large, ?_⟩
      cases s with
      | positive =>
          have ahead : 0 < r := not_le.mp fun le => (near.nonpos le).not_gt number_positive_pos
          exact .inl ⟨ahead, rfl⟩
      | negative =>
          have behind : r < 0 := not_le.mp fun le => (near.nonneg le).not_gt number_negative_neg
          exact .inr ⟨behind, rfl⟩

/-! ### What is stored again -/

/-- Nothing is lost by reading bits, since a NaN is stored in one way only. -/
theorem pack_unpack_of_valid {b : BitVec 32} (valid : Format.binary32.Valid b) :
    pack Format.binary32 (unpack Format.binary32 b) = b := by
  have stored := stored_unpack b
  obtain ⟨sign, exponent, mantissa, rfl⟩ := exists_packComponents b
  obtain ⟨rfl, ⟨rfl, read⟩ | ⟨some, read⟩⟩ | ⟨rfl, ⟨rfl, read⟩ | ⟨some, read⟩⟩ |
    ⟨low, high, some, read⟩ := unpack_cases sign exponent mantissa <;> rw [read] at stored ⊢
  · rfl
  · refine (valid.eq_packedNaN ?_ ?_).symm
    · exact unpackExponent_packComponents
    · rwa [unpackMantissa_packComponents]
  · rfl
  · have few : ¬ 2 ^ 23 ≤ mantissa.toNat := mantissa.isLt.not_ge
    rw [pack_of_fits stored.1, if_pos stored.2, if_neg few, BitVec.ofNat_toNat, BitVec.setWidth_eq]
  · have digits : BitVec.ofNat 23 (2 ^ 23 + mantissa.toNat) = mantissa := by
      refine BitVec.eq_of_toNat_eq ?_
      rw [BitVec.toNat_ofNat, Nat.add_mod_left, Nat.mod_eq_of_lt mantissa.isLt]
    rw [pack_of_fits stored.1, if_pos stored.2, if_pos (Nat.le_add_right _ _), digits,
      Int.sub_add_cancel, Int.toNat_natCast, BitVec.ofNat_toNat, BitVec.setWidth_eq]

/-- A number that is read and stored again is the same. -/
theorem ofModel_pack_unpack (x : Float32) : Float32.ofModel (.pack x.toModel.unpack) = x := by
  obtain ⟨bits, valid⟩ := x
  have same : UInt32.ofBitVec (pack .binary32 (unpack .binary32 bits.toBitVec)) = bits :=
    congrArg UInt32.ofBitVec (pack_unpack_of_valid valid)
  change Float32.ofModel ⟨UInt32.ofBitVec (pack .binary32 _), _⟩ = _
  congr 2

end CharacterMotion.Binary32
