import TurtleGraphics.Proofs.Number.Value

set_option autoImplicit false

/-!
# Rounding to doubles

A number that a double can hold is not changed by rounding, and no rounding changes a sign.
-/

namespace TurtleGraphics.Number

open Float.Model Float.Model.UnpackedFloat

theorem targetExponent_eq (total : Int) :
    Format.binary64.targetExponent total = max (total - 53) (-1074) := rfl

theorem log2_shiftLeft {mantissa : Nat} (positive : 0 < mantissa) (shift : Nat) :
    (mantissa <<< shift).log2 = mantissa.log2 + shift := by
  induction shift with
  | zero => rfl
  | succ shift ih =>
      have filled : mantissa <<< shift ≠ 0 := by
        rw [Nat.shiftLeft_eq]
        positivity
      rw [Nat.shiftLeft_succ, Nat.log2_two_mul filled, ih, Nat.add_assoc]

/-! ### Exact roundings -/

section Exact

variable (sign : Sign) {mantissa : Nat} {exponent : Int}

theorem shiftToTargetExponent_of_eq
    (fixed : Format.binary64.targetExponent (totalExponent mantissa exponent) = exponent) :
    shiftToTargetExponent Format.binary64 mantissa exponent .exact =
      (⟨mantissa, false, false⟩, exponent) := by
  simp only [shiftToTargetExponent, shiftToExponent, fixed, Int.sub_self]
  exact Prod.ext rfl (Int.add_zero exponent)

theorem roundWithAccuracy_of_eq (positive : 0 < mantissa)
    (fixed : Format.binary64.targetExponent (totalExponent mantissa exponent) = exponent) :
    roundWithAccuracy Format.binary64 sign mantissa exponent .exact =
      .finite sign mantissa exponent positive := by
  have rounded : (ExtendedMantissa.mk mantissa false false).roundedMantissa = mantissa := rfl
  simp only [roundWithAccuracy, shiftToTargetExponent_of_eq fixed, rounded]
  exact dif_neg positive.ne'

theorem round_zero (exponent : Int) :
    UnpackedFloat.round Format.binary64 sign 0 exponent = .zero sign := by
  have shifted : ∀ count : Nat, (ExtendedMantissa.mk 0 false false) >>> count =
      ExtendedMantissa.mk 0 false false := by
    intro count
    change count.repeat ExtendedMantissa.shiftRightOne _ = _
    induction count with
    | zero => rfl
    | succ count ih =>
        rw [Nat.repeat, ih]
        rfl
  have rounded : (ExtendedMantissa.mk 0 false false).roundedMantissa = 0 := rfl
  simp only [UnpackedFloat.round, decreaseExponent, Nat.zero_shiftLeft, roundWithAccuracy,
    shiftToTargetExponent, shiftToExponent, ExtendedMantissa.ofMantissaAndAccuracy, shifted,
    rounded]
  exact dif_pos trivial

/-- What fits in a double is not rounded. -/
theorem round_exact (short : mantissa < 2 ^ 53) (low : -1074 ≤ exponent) (high : exponent ≤ 971) :
    IsDouble (UnpackedFloat.round Format.binary64 sign mantissa exponent) ∧
      (UnpackedFloat.round Format.binary64 sign mantissa exponent).isFinite = true ∧
      exact (UnpackedFloat.round Format.binary64 sign mantissa exponent) =
        sign.apply mantissa * 2 ^ exponent := by
  rcases Nat.eq_zero_or_pos mantissa with rfl | positive
  · rw [round_zero]
    exact ⟨trivial, rfl, by cases sign <;> simp [exact, Sign.apply]⟩
  have digits : mantissa.log2 < 53 := (Nat.log2_lt positive.ne').mpr short
  let target := Format.binary64.targetExponent (totalExponent mantissa exponent)
  let shift := (exponent - target).toNat
  have targeted : target = max (mantissa.log2 + 1 + exponent - 53) (-1074) := rfl
  have shifted : exponent = target + shift := by omega
  have filled : 0 < mantissa <<< shift := by
    rw [Nat.shiftLeft_eq]
    positivity
  have longer := log2_shiftLeft positive shift
  have fixed : Format.binary64.targetExponent (totalExponent (mantissa <<< shift) target) =
      target := by
    rw [targetExponent_eq, totalExponent, longer]
    omega
  have rounded : UnpackedFloat.round Format.binary64 sign mantissa exponent =
      .finite sign (mantissa <<< shift) target filled := by
    have lowered : exponent - ((exponent - target).toNat : Int) = target := by omega
    simp only [UnpackedFloat.round, decreaseExponent]
    rw [lowered]
    exact roundWithAccuracy_of_eq sign filled fixed
  have fits : mantissa <<< shift < 2 ^ 53 := (Nat.log2_lt filled.ne').mp (by omega)
  rw [rounded]
  refine ⟨⟨fits, by omega, by omega, ?_⟩, rfl, ?_⟩
  · by_cases least : target = -1074
    · exact .inr least
    · exact .inl ((Nat.le_log2 filled.ne').mp (by omega))
  · have power : ((2 : ℚ) ^ exponent) = 2 ^ shift * 2 ^ target := by
      rw [shifted, zpow_add₀ two_ne_zero, zpow_natCast, mul_comm]
    cases sign <;> simp [exact, Sign.apply, Nat.shiftLeft_eq, power, mul_assoc]

end Exact

/-! ### Signs -/

def IsNegative : UnpackedFloat → Prop
  | .finite sign _ _ _ => sign = .negative
  | .infinity sign => sign = .negative
  | .notANumber => False
  | .zero _ => False

theorem lt_zero_iff (double : Float) :
    double < 0.0 ↔ IsNegative double.toModel.unpack := by
  have zero : (0.0 : Float).toModel.unpack = .zero .positive := rfl
  rw [lt_iff_compare, zero]
  cases double.toModel.unpack with
  | notANumber => simp [UnpackedFloat.compare, IsNegative]
  | zero sign => simp [UnpackedFloat.compare, IsNegative]
  | infinity sign => cases sign <;> simp [UnpackedFloat.compare, IsNegative]
  | finite sign => cases sign <;> simp [UnpackedFloat.compare, IsNegative]

theorem isNegative_iff {unpacked : UnpackedFloat} (finite : unpacked.isFinite = true) :
    IsNegative unpacked ↔ exact unpacked < 0 := by
  obtain ⟨sign, rfl⟩ | ⟨sign, mantissa, exponent, positive, rfl⟩ := finite_cases finite
  · simp [IsNegative, exact]
  · have magnitude : (0 : ℚ) < mantissa * 2 ^ exponent := by positivity
    cases sign with
    | negative => simpa [IsNegative, exact, Sign.apply] using magnitude
    | positive => simpa [IsNegative, exact, Sign.apply] using magnitude.le

theorem not_isNegative_components (exponent : BitVec 11) (mantissa : BitVec 52) :
    ¬ IsNegative (UnpackedFloat.unpack Format.binary64
      (packComponents Format.binary64 .positive exponent mantissa)) := by
  simp only [UnpackedFloat.unpack, unpackSign_packComponents, ofBitVec_toBitVec]
  split
  · split <;> simp [IsNegative]
  · split
    · split <;> simp [IsNegative]
    · simp [IsNegative]

theorem not_isNegative_pack {unpacked : UnpackedFloat} (notNegative : ¬ IsNegative unpacked) :
    ¬ IsNegative (Float.Model.pack unpacked).unpack := by
  cases unpacked with
  | notANumber => exact notNegative
  | zero sign => rwa [unpack_pack_zero]
  | infinity sign => rwa [unpack_pack_infinity]
  | finite sign mantissa exponent positive =>
      cases sign with
      | negative => exact absurd rfl notNegative
      | positive =>
          change ¬ IsNegative (UnpackedFloat.unpack _ (UnpackedFloat.pack _ _))
          unfold UnpackedFloat.pack
          dsimp only
          split
          · exact not_isNegative_components _ _
          · split <;> exact not_isNegative_components _ _

theorem not_isNegative_round (mantissa : Nat) (exponent : Int) :
    ¬ IsNegative (UnpackedFloat.round Format.binary64 .positive mantissa exponent) := by
  simp only [UnpackedFloat.round, roundWithAccuracy]
  split <;> simp [IsNegative]

theorem not_isNegative_normalize {mantissa : Int} (notNegative : 0 ≤ mantissa) (exponent : Int) :
    ¬ IsNegative (UnpackedFloat.normalize Format.binary64 mantissa exponent .positive) := by
  rw [UnpackedFloat.normalize]
  split
  next below => exact absurd (Int.compare_eq_lt.mp below) (not_lt.mpr notNegative)
  next => exact id
  next => exact not_isNegative_round _ _

/-! ### Sums -/

theorem add_finite (sign otherSign : Sign) {mantissa otherMantissa : Nat}
    (exponent otherExponent : Int) (positive : 0 < mantissa) (otherPositive : 0 < otherMantissa) :
    ∃ total least, UnpackedFloat.add Format.binary64 (.finite sign mantissa exponent positive)
        (.finite otherSign otherMantissa otherExponent otherPositive) =
          UnpackedFloat.normalize Format.binary64 total least .positive ∧
      exact (.finite sign mantissa exponent positive) +
        exact (.finite otherSign otherMantissa otherExponent otherPositive) =
          total * 2 ^ least := by
  refine ⟨_, _, rfl, ?_⟩
  have power : ∀ high : Int, min exponent otherExponent ≤ high →
      (2 : ℚ) ^ high = 2 ^ (high - min exponent otherExponent).toNat *
        2 ^ min exponent otherExponent := by
    intro high least
    rw [← zpow_natCast, ← zpow_add₀ two_ne_zero]
    congr 1
    omega
  simp only [exact, Nat.shiftLeft_eq]
  rw [power exponent (min_le_left _ _), power otherExponent (min_le_right _ _)]
  cases sign <;> cases otherSign <;> simp only [Sign.apply] <;> push_cast <;> ring

theorem not_isNegative_add {unpacked other : UnpackedFloat} (finite : unpacked.isFinite = true)
    (otherFinite : other.isFinite = true) (notNegative : 0 ≤ exact unpacked + exact other) :
    ¬ IsNegative (UnpackedFloat.add Format.binary64 unpacked other) := by
  have single : ∀ {summand : UnpackedFloat}, summand.isFinite = true → 0 ≤ exact summand →
      ¬ IsNegative summand :=
    fun finite notNegative negative => notNegative.not_gt ((isNegative_iff finite).mp negative)
  have nothing : ∀ sign, exact (.zero sign) = 0 := fun _ => rfl
  obtain ⟨sign, rfl⟩ | ⟨sign, mantissa, exponent, positive, rfl⟩ := finite_cases finite
  · rw [nothing, zero_add] at notNegative
    obtain ⟨otherSign, rfl⟩ | ⟨otherSign, mantissa, exponent, positive, rfl⟩ :=
      finite_cases otherFinite
    · simp only [UnpackedFloat.add]
      split <;> exact id
    · exact single rfl notNegative
  · obtain ⟨otherSign, rfl⟩ | ⟨otherSign, otherMantissa, otherExponent, otherPositive, rfl⟩ :=
      finite_cases otherFinite
    · rw [nothing, add_zero] at notNegative
      exact single rfl notNegative
    · obtain ⟨total, least, added, sum⟩ := add_finite sign otherSign exponent otherExponent
        positive otherPositive
      rw [added]
      apply not_isNegative_normalize
      rw [sum] at notNegative
      exact_mod_cast nonneg_of_mul_nonneg_left notNegative (by positivity)

/-- Rounding a sum that is not below zero does not bring it there. -/
theorem not_add_lt_zero {left right : Float} (leftFinite : left.isFinite = true)
    (rightFinite : right.isFinite = true) (notNegative : 0 ≤ value left + value right) :
    ¬ left + right < 0.0 := by
  rw [lt_zero_iff]
  exact not_isNegative_pack (not_isNegative_add leftFinite rightFinite notNegative)

end TurtleGraphics.Number
