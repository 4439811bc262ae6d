import Mathlib
import TurtleGraphics.Number.Remainder

set_option autoImplicit false

/-!
# The binary form of doubles

A double and its unpacked form carry the same information: sign, mantissa and exponent of a number
in canonical form, a signed zero, a signed infinity, or NaN.
-/

namespace TurtleGraphics.Number

open Float.Model Float.Model.UnpackedFloat

/-- The unpacked forms that doubles have. The mantissa of a number uses all 53 bits unless the
exponent is the least one. -/
def IsDouble : UnpackedFloat → Prop
  | .finite _ mantissa exponent _ =>
    mantissa < 2 ^ 53 ∧ -1074 ≤ exponent ∧ exponent ≤ 971 ∧
      (2 ^ 52 ≤ mantissa ∨ exponent = -1074)
  | .infinity _ => True
  | .notANumber => True
  | .zero _ => True

/-! ### Components -/

theorem ofBitVec_toBitVec (sign : Sign) : Sign.ofBitVec sign.toBitVec = sign := by
  cases sign <;> rfl

theorem toBitVec_ofBitVec (bit : BitVec 1) : (Sign.ofBitVec bit).toBitVec = bit := by
  rcases BitVec.eq_zero_or_eq_one bit with rfl | rfl <;> rfl

theorem toNat_unpackSign (bits : BitVec Format.binary64.numBits) :
    (unpackSign bits).toNat = bits.toNat / 2 ^ 63 % 2 := by
  simp [unpackSign, Nat.shiftRight_eq_div_pow]

theorem toNat_packComponents (sign : Sign) (exponent : BitVec 11) (mantissa : BitVec 52) :
    (packComponents Format.binary64 sign exponent mantissa).toNat =
      sign.toBitVec.toNat * 2 ^ 63 + exponent.toNat * 2 ^ 52 + mantissa.toNat := by
  unfold packComponents
  rw [BitVec.toNat_append, BitVec.toNat_append, ← Nat.shiftLeft_add_eq_or_of_lt exponent.isLt,
    ← Nat.shiftLeft_add_eq_or_of_lt mantissa.isLt]
  simp only [Nat.shiftLeft_eq]
  omega

@[simp] theorem unpackSign_packComponents (sign : Sign) (exponent : BitVec 11)
    (mantissa : BitVec 52) :
    unpackSign (packComponents Format.binary64 sign exponent mantissa) = sign.toBitVec := by
  have exponentBound := exponent.isLt
  have mantissaBound := mantissa.isLt
  have signBound := sign.toBitVec.isLt
  apply BitVec.eq_of_toNat_eq
  rw [toNat_unpackSign, toNat_packComponents]
  omega

/-- The three components are all there is of a bit pattern. -/
theorem packComponents_unpack (bits : BitVec Format.binary64.numBits) :
    packComponents Format.binary64 (.ofBitVec (unpackSign bits)) (unpackExponent bits)
      (unpackMantissa bits) = bits := by
  have width : bits.toNat < 2 ^ 64 := bits.isLt
  have exponent : (unpackExponent bits).toNat = bits.toNat / 2 ^ 52 % 2 ^ 11 := by
    simp [unpackExponent, Nat.shiftRight_eq_div_pow]
  have mantissa : (unpackMantissa bits).toNat = bits.toNat % 2 ^ 52 := by
    simp [unpackMantissa]
  apply BitVec.eq_of_toNat_eq
  rw [toNat_packComponents, toBitVec_ofBitVec, toNat_unpackSign, exponent, mantissa]
  omega

theorem toNat_append_implicit (mantissa : BitVec 52) :
    (1#1 ++ mantissa).toNat = 2 ^ 52 + mantissa.toNat := by
  rw [BitVec.toNat_append, ← Nat.shiftLeft_add_eq_or_of_lt mantissa.isLt]
  rfl

/-! ### Unpacking -/

theorem isDouble_unpack (model : Float.Model) : IsDouble model.unpack := by
  unfold Float.Model.unpack
  fun_cases UnpackedFloat.unpack Format.binary64 model.toBits.toBitVec with
  | case1 => trivial
  | case2 => trivial
  | case3 => trivial
  | case4 mantissa exponentBits exponent _ _ _ zero filled =>
      have short : mantissa.toNat < 2 ^ 52 := mantissa.isLt
      have least : exponent = -1075 := by
        simp only [exponent, zero]
        rfl
      exact ⟨by omega, by omega, by omega, .inr (by omega)⟩
  | case5 mantissa exponentBits exponent _ _ special zero =>
      have short : mantissa.toNat < 2 ^ 52 := mantissa.isLt
      have width : exponentBits.toNat < 2048 := exponentBits.isLt
      have positive : exponentBits.toNat ≠ 0 := fun none => zero (BitVec.eq_of_toNat_eq none)
      have bounded : exponentBits.toNat ≠ 2047 := fun all => special (BitVec.eq_of_toNat_eq all)
      have shifted : exponent = exponentBits.toNat - 1075 := rfl
      simp only [IsDouble, toNat_append_implicit]
      exact ⟨by omega, by omega, by omega, .inl (by omega)⟩

/-! ### Packing -/

section Packing

variable (sign : Sign) {mantissa : Nat} {exponent : Int} (positive : 0 < mantissa)

theorem biasedExponent_eq (exponent : Int) :
    exponent + Format.binary64.exponentBias + (52 : Nat) = exponent + 1075 := by
  have bias : (Format.binary64.exponentBias : Int) = 1023 := rfl
  omega

theorem pack_normal (filled : 2 ^ 52 ≤ mantissa) (short : mantissa < 2 ^ 53)
    (low : -1074 ≤ exponent) (high : exponent ≤ 971) :
    UnpackedFloat.pack Format.binary64 (.finite sign mantissa exponent positive) =
      packComponents Format.binary64 sign (.ofNat 11 (exponent + 1075).toNat)
        (.ofNat 52 mantissa) := by
  have digits : mantissa.log2 + 1 = Format.binary64.mantissaBits := by
    rw [(Nat.log2_eq_iff (by omega)).mpr ⟨filled, short⟩]
    rfl
  have fits : ¬ 2 ^ 11 ≤ (exponent + 1075).toNat + 1 := by omega
  simp only [UnpackedFloat.pack, biasedExponent_eq]
  rw [if_neg fits, if_pos digits]

theorem pack_subnormal (short : mantissa < 2 ^ 52) :
    UnpackedFloat.pack Format.binary64 (.finite sign mantissa (-1074) positive) =
      packComponents Format.binary64 sign 0#11 (.ofNat 52 mantissa) := by
  have digits : mantissa.log2 + 1 ≠ Format.binary64.mantissaBits := by
    have fewer := (Nat.log2_lt (by omega)).mpr short
    change mantissa.log2 + 1 ≠ 53
    omega
  simp only [UnpackedFloat.pack, biasedExponent_eq]
  rw [if_neg (by decide), if_neg digits]

end Packing

/-- A double is its unpacked form. -/
theorem pack_unpack (model : Float.Model) : Float.Model.pack model.unpack = model := by
  obtain ⟨bits, valid⟩ := model
  have whole := packComponents_unpack bits.toBitVec
  suffices same : UnpackedFloat.pack Format.binary64 (unpack Format.binary64 bits.toBitVec) =
      bits.toBitVec by
    simp only [Float.Model.pack, Float.Model.unpack, same, UInt64.ofBitVec_toBitVec]
  fun_cases unpack Format.binary64 bits.toBitVec with
  | case1 mantissa exponentBits _ sign special empty =>
      change packComponents Format.binary64 sign (-1#_) 0#_ = _
      rw [← special, ← empty]
      exact whole
  | case2 mantissa exponentBits special filled => exact (valid.eq_packedNaN special filled).symm
  | case3 mantissa exponentBits _ sign _ zero empty =>
      change packComponents Format.binary64 sign 0#_ 0#_ = _
      rw [← zero, ← empty]
      exact whole
  | case4 mantissa exponentBits exponent _ sign _ zero filled =>
      have least : exponent + 1 = -1074 := by
        simp only [exponent, zero]
        rfl
      have short : mantissa.toNat < 2 ^ 52 := mantissa.isLt
      simp only [least]
      rw [pack_subnormal _ _ short, BitVec.ofNat_toNat, BitVec.setWidth_eq, ← zero]
      exact whole
  | case5 mantissa exponentBits exponent _ sign special zero =>
      have short : mantissa.toNat < 2 ^ 52 := mantissa.isLt
      have width : exponentBits.toNat < 2048 := exponentBits.isLt
      have positive : exponentBits.toNat ≠ 0 := fun none => zero (BitVec.eq_of_toNat_eq none)
      have bounded : exponentBits.toNat ≠ 2047 := fun all => special (BitVec.eq_of_toNat_eq all)
      have shifted : exponent = exponentBits.toNat - 1075 := rfl
      have stored : BitVec.ofNat 11 (exponent + 1075).toNat = exponentBits := by
        rw [shifted, Int.sub_add_cancel, Int.toNat_natCast, BitVec.ofNat_toNat]
        exact BitVec.setWidth_eq _
      have tail : BitVec.ofNat 52 (2 ^ 52 + mantissa.toNat) = mantissa := by
        apply BitVec.eq_of_toNat_eq
        rw [BitVec.toNat_ofNat]
        omega
      simp only [toNat_append_implicit]
      rw [pack_normal _ _ (by omega) (by omega) (by omega) (by omega), stored, tail]
      exact whole

@[simp] theorem unpack_pack_infinity (sign : Sign) :
    (Float.Model.pack (.infinity sign)).unpack = .infinity sign := by
  cases sign <;> rfl

@[simp] theorem unpack_pack_zero (sign : Sign) :
    (Float.Model.pack (.zero sign)).unpack = .zero sign := by
  cases sign <;> rfl

theorem unpack_packComponents (sign : Sign) {exponent : BitVec 11} (mantissa : BitVec 52)
    (zero : exponent ≠ 0#11) (special : exponent ≠ -1#11) :
    unpack Format.binary64 (packComponents Format.binary64 sign exponent mantissa) =
      .finite sign (2 ^ 52 + mantissa.toNat) (exponent.toNat - 1075) (by omega) := by
  simp only [UnpackedFloat.unpack, unpackMantissa_packComponents, unpackExponent_packComponents,
    unpackSign_packComponents, ofBitVec_toBitVec, toNat_append_implicit]
  rw [if_neg special, if_neg zero]
  rfl

theorem unpack_packComponents_zero (sign : Sign) {mantissa : BitVec 52} (filled : mantissa ≠ 0#52) :
    unpack Format.binary64 (packComponents Format.binary64 sign 0#11 mantissa) =
      .finite sign mantissa.toNat (-1074) (BitVec.toNat_pos_of_ne_zero filled) := by
  simp only [UnpackedFloat.unpack, unpackMantissa_packComponents, unpackExponent_packComponents,
    unpackSign_packComponents, ofBitVec_toBitVec]
  rw [if_neg (by decide), if_pos trivial, dif_neg filled]
  rfl

/-- Packing loses nothing of what a double can be. -/
theorem unpack_pack {unpacked : UnpackedFloat} (double : IsDouble unpacked) :
    (Float.Model.pack unpacked).unpack = unpacked := by
  cases unpacked with
  | notANumber => rfl
  | infinity sign => exact unpack_pack_infinity sign
  | zero sign => exact unpack_pack_zero sign
  | finite sign mantissa exponent positive =>
      obtain ⟨short, low, high, form⟩ := double
      change unpack Format.binary64 (UnpackedFloat.pack Format.binary64 _) = _
      by_cases filled : 2 ^ 52 ≤ mantissa
      · have stored : (BitVec.ofNat 11 (exponent + 1075).toNat).toNat =
            (exponent + 1075).toNat := by
          rw [BitVec.toNat_ofNat]
          omega
        have tail : (BitVec.ofNat 52 mantissa).toNat = mantissa - 2 ^ 52 := by
          rw [BitVec.toNat_ofNat]
          omega
        rw [pack_normal _ _ filled short low high, unpack_packComponents]
        · congr 1 <;> omega
        · intro zero
          rw [zero] at stored
          have none : 0 = (exponent + 1075).toNat := stored
          omega
        · intro special
          rw [special] at stored
          have all : 2047 = (exponent + 1075).toNat := stored
          omega
      · obtain rfl := form.resolve_left filled
        have stored : (BitVec.ofNat 52 mantissa).toNat = mantissa := by
          rw [BitVec.toNat_ofNat]
          omega
        rw [pack_subnormal _ _ (by omega), unpack_packComponents_zero]
        · congr 1
        · intro empty
          rw [empty] at stored
          have none : 0 = mantissa := stored
          omega

end TurtleGraphics.Number
