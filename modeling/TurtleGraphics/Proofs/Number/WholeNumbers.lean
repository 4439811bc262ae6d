import TurtleGraphics.Number.Numeral
import TurtleGraphics.Proofs.Number.Overflow

set_option autoImplicit false

/-!
# Doubles of whole numbers

Whole numbers of up to 53 bits are doubles themselves, and so are their halves. A whole number of
64 bits is far from the largest double, so the double that it is read as is finite.
-/

namespace TurtleGraphics.Number

open Float.Model Float.Model.UnpackedFloat

/-! ### Short whole numbers and their halves -/

theorem standsFor_ofNat {whole : Nat} (short : whole < 2 ^ 53) :
    StandsFor (.ofModel (Float.Model.pack (UnpackedFloat.ofNat Format.binary64 whole))) whole := by
  obtain ⟨number, placed⟩ := standing_pack_normalize (whole : Int) 0
  have fits : Fits ((whole : Int) : ℚ) := fits_intCast (by rw [Nat.abs_cast]; exact_mod_cast short)
  rw [zpow_zero, mul_one] at placed
  exact standsFor_of_place number placed fits

theorem standsFor_toFloat (whole : UInt32) : StandsFor whole.toFloat whole.toNat :=
  standsFor_ofNat (whole.toNat_lt.trans (by decide))

theorem log2_of_isDouble {sign : Sign} {mantissa : Nat} {exponent : Int} {positive : 0 < mantissa}
    (double : IsDouble (.finite sign mantissa exponent positive)) (low : -1074 < exponent) :
    mantissa.log2 = 52 := by
  obtain ⟨short, -, -, form⟩ := double
  exact (Nat.log2_eq_iff positive.ne').mpr ⟨form.resolve_right low.ne', short⟩

/-- Halving leaves the digits of a mantissa as they are, unless the exponent is the least one. -/
theorem div_two (sign : Sign) {mantissa : Nat} {exponent : Int} (positive : 0 < mantissa)
    (double : IsDouble (.finite sign mantissa exponent positive)) (low : -1074 < exponent - 1) :
    UnpackedFloat.div Format.binary64 (.finite sign mantissa exponent positive)
        (.finite .positive (2 ^ 52) (-51) (by decide)) =
      roundWithAccuracy Format.binary64 sign (2 * mantissa) (exponent - 2) .exact := by
  have digits := log2_of_isDouble double (by omega)
  have unit : (2 ^ 52 : Nat).log2 = 52 := by decide
  have target : min (exponent - -51) (Format.binary64.targetExponent
      (totalExponent mantissa exponent - totalExponent (2 ^ 52) (-51))) = exponent - 2 := by
    rw [targetExponent_eq, totalExponent, totalExponent, digits, unit]
    omega
  have shift : (exponent - -51 - (exponent - 2)).toNat = 53 := by omega
  have shifted : mantissa <<< 53 = 2 * mantissa * 2 ^ 52 := by
    rw [Nat.shiftLeft_eq]
    ring
  have divided : divCore Format.binary64 mantissa exponent (2 ^ 52) (-51) =
      (2 * mantissa, exponent - 2, .exact) := by
    simp only [divCore, target, shift, shifted, Nat.mul_div_cancel _ (Nat.two_pow_pos 52),
      Nat.mul_mod_left]
    rfl
  simp only [UnpackedFloat.div, divided]
  cases sign <;> rfl

theorem standsFor_half_finite (sign : Sign) {mantissa : Nat} {exponent : Int}
    (positive : 0 < mantissa) (double : IsDouble (.finite sign mantissa exponent positive))
    (low : -1074 < exponent - 1) :
    StandsFor (.ofModel (Float.Model.pack (UnpackedFloat.div Format.binary64
        (.finite sign mantissa exponent positive) (.finite .positive (2 ^ 52) (-51) (by decide)))))
      (exact (.finite sign mantissa exponent positive) / 2) := by
  have digits := log2_of_isDouble double (by omega)
  rw [div_two sign positive double low]
  obtain ⟨short, -, high, -⟩ := double
  have halved : exact (.finite sign mantissa exponent positive) / 2 =
      signed sign (mantissa * 2 ^ (exponent - 1)) := by
    rw [exact_finite, zpow_sub_one₀ two_ne_zero]
    cases sign <;> simp only [signed] <;> ring
  have longer : ((2 * mantissa : Nat) : ℚ) * 2 ^ (exponent - 2) =
      mantissa * 2 ^ (exponent - 1) := by
    rw [show exponent - 1 = exponent - 2 + 1 by omega, zpow_add_one₀ two_ne_zero]
    push_cast
    ring
  have long : exponent - 2 ≤
      Format.binary64.targetExponent (totalExponent (2 * mantissa) (exponent - 2)) := by
    rw [targetExponent_eq, totalExponent, Nat.log2_two_mul positive.ne']
    omega
  obtain ⟨number, placed⟩ :=
    standing_pack_roundWithAccuracy sign (Nat.mul_pos two_pos positive) long
  rw [longer, ← confined_signed sign (nearestMagnitude_nonneg _),
    ← nearest_signed sign (by positivity)] at placed
  rw [halved]
  exact standsFor_of_place number placed (fits_of_short sign short low.le (by omega))

/-- The last digit of a whole number is not far below one. -/
theorem exponent_of_whole {sign : Sign} {mantissa : Nat} {exponent : Int}
    {positive : 0 < mantissa} {whole : Nat} (short : mantissa < 2 ^ 53)
    (valued : exact (.finite sign mantissa exponent positive) = whole) : -53 < exponent := by
  have magnitude : (mantissa : ℚ) * 2 ^ exponent = whole := by
    have notNegative : (0 : ℚ) ≤ whole := Nat.cast_nonneg whole
    rw [← abs_of_nonneg notNegative, ← valued, abs_exact_finite]
  have filled : (0 : ℚ) < whole := by
    rw [← magnitude]
    positivity
  have counted : (1 : ℚ) ≤ whole := by exact_mod_cast filled
  by_contra low
  have tiny : (mantissa : ℚ) * 2 ^ exponent < 2 ^ 53 * 2 ^ (-53 : Int) :=
    mul_lt_mul (by exact_mod_cast short) (zpow_le_zpow_right₀ one_le_two (not_lt.mp low))
      (two_zpow_pos exponent) (by positivity)
  have unit : (2 : ℚ) ^ 53 * 2 ^ (-53 : Int) = 1 := by norm_num
  rw [magnitude, unit] at tiny
  exact absurd counted (not_le.mpr tiny)

/-- A whole number is far enough from the least exponent to be halved without rounding. -/
theorem StandsFor.half {double : Float} {whole : Nat} (stands : StandsFor double whole) :
    StandsFor (double / 2.0) (whole / 2) := by
  obtain ⟨finite, valued⟩ := stands
  have two : (2.0 : Float).toModel.unpack = .finite .positive (2 ^ 52) (-51) (by decide) := by rfl
  have form := isDouble_unpack double.toModel
  change StandsFor (.ofModel (Float.Model.pack (UnpackedFloat.div Format.binary64
    double.toModel.unpack (2.0 : Float).toModel.unpack))) _
  rw [← valued, value, two]
  obtain ⟨sign, zero⟩ | ⟨sign, mantissa, exponent, positive, unpacked⟩ := finite_cases finite
  · have nothing : exact (.zero sign) / 2 = 0 := zero_div 2
    rw [zero, nothing]
    cases sign <;> exact ⟨rfl, rfl⟩
  · rw [value, unpacked] at valued
    rw [unpacked] at form ⊢
    have low := exponent_of_whole form.1 valued
    exact standsFor_half_finite sign positive form (by omega)

/-! ### Whole numbers of 64 bits -/

theorem isFinite_ofScientific_short {number : Nat} (short : number < 2 ^ 53) :
    (Float.ofScientific number false 0).isFinite = true := by
  have one : StandsFor (.ofBits 0x3FF0000000000000) 1 := by
    have unpacked : (Float.ofBits 0x3FF0000000000000).toModel.unpack =
        .finite .positive (2 ^ 52) (-52) (by decide) := rfl
    have stands := standsFor_of_unpack unpacked
    norm_num [signed] at stands
    exact stands
  have stored : number.toUInt64.toNat = number := UInt64.toNat_ofNat_of_lt (short.trans (by decide))
  have converted : StandsFor number.toUInt64.toFloat number.toUInt64.toNat :=
    standsFor_ofNat (stored.trans_lt short)
  have fits : Fits (number.toUInt64.toNat * 1 : ℚ) := by
    rw [mul_one, ← converted.2]
    exact fits_value _
  rw [Float.ofScientific, dif_pos ⟨short, by decide⟩]
  exact (converted.mul one fits).1

theorem isFinite_ofScientific_long {number : Nat} (long : 2 ^ 53 ≤ number)
    (short : number < 2 ^ 64) : (Float.ofScientific number false 0).isFinite = true := by
  have filled : number ≠ 0 := by omega
  have notTiny : ¬ Int.ofNat 0 < -((2 ^ Format.binary64.exponentBits : Int) + number.log2) := by
    have width : (2 : Int) ^ Format.binary64.exponentBits = 2048 := rfl
    have zero : Int.ofNat 0 = 0 := rfl
    rw [width]
    omega
  have scaled : UnpackedFloat.ofScientific Format.binary64 number (Int.ofNat 0) =
      roundWithAccuracy Format.binary64 (.positive * .positive) (number <<< 53 * 1) (-53 + 0)
        .exact := by
    rw [UnpackedFloat.ofScientific, dif_neg filled, if_neg (by decide), if_neg notTiny,
      if_pos (by decide)]
    rfl
  have sign : (.positive * .positive : Sign) = .positive := rfl
  rw [sign, Nat.mul_one, Int.add_zero] at scaled
  have digits : 53 ≤ number.log2 := (Nat.le_log2 filled).mpr long
  have shifted := log2_shiftLeft (Nat.pos_of_ne_zero filled) 53
  have accurate : (-53 : Int) ≤
      Format.binary64.targetExponent (totalExponent (number <<< 53) (-53)) := by
    rw [targetExponent_eq, totalExponent, shifted]
    omega
  have positive : 0 < number <<< 53 := by
    rw [Nat.shiftLeft_eq]
    omega
  have unscaled : ((number <<< 53 : Nat) : ℚ) * 2 ^ (-53 : Int) = number := by
    rw [Nat.shiftLeft_eq, Nat.cast_mul, Nat.cast_pow, Nat.cast_ofNat, mul_assoc, ← zpow_natCast,
      ← zpow_add₀ two_ne_zero]
    exact mul_one _
  have below : (number : ℚ) < overflow :=
    calc (number : ℚ) < 2 ^ (64 : Int) := by exact_mod_cast short
      _ ≤ 2 ^ (970 : Int) := zpow_le_zpow_right₀ one_le_two (by decide)
      _ ≤ overflow := two_zpow_le_overflow
  rw [← unscaled] at below
  have finite := isFinite_pack_roundWithAccuracy .positive positive accurate below
  rw [← scaled] at finite
  rw [Float.ofScientific, dif_neg (by omega)]
  exact finite

/-- Whole numbers of 64 bits are read as finite doubles. -/
theorem isFinite_ofDecimal_whole (negative : Bool) {number : Nat} (short : number < 2 ^ 64) :
    (ofDecimal negative number 0).isFinite = true := by
  have magnitude : (Float.ofScientific number false 0).isFinite = true := by
    by_cases fits : number < 2 ^ 53
    · exact isFinite_ofScientific_short fits
    · exact isFinite_ofScientific_long (Nat.le_of_not_lt fits) short
  cases negative with
  | false => exact magnitude
  | true =>
      change (-Float.ofScientific number false 0).isFinite = true
      rwa [isFinite_neg]

end TurtleGraphics.Number
