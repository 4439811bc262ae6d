import TurtleGraphics.Proofs.Number.Rounding

set_option autoImplicit false

/-!
# What a remainder is

The remainder of a number differs from it by a multiple of the period, lies on the same side of
zero and has a smaller magnitude than the period. Other doubles have none.
-/

namespace TurtleGraphics.Number

open Float.Model Float.Model.UnpackedFloat

/-- A whole number that a double holds without rounding. -/
structure IsPeriod (period : Nat) : Prop where
  positive : 0 < period
  short : period < 2 ^ 53
  finite : period.toFloat.isFinite = true
  exact : value period.toFloat = period

section

variable {double : Float} {period : Nat}

theorem remainder_of_abs_lt (below : double.abs < period.toFloat) :
    remainder double period = double :=
  if_pos below

theorem remainder_of_not_isFinite (special : double.isFinite = false) :
    remainder double period = 0.0 / 0.0 := by
  have notBelow : ¬ double.abs < period.toFloat := by
    intro below
    rw [isFinite_of_abs_lt below] at special
    cases special
  change double.toModel.unpack.isFinite = false at special
  rw [remainder, if_neg notBelow]
  cases unpacked : double.toModel.unpack with
  | notANumber => rfl
  | infinity => rfl
  | zero => simp [unpacked, UnpackedFloat.isFinite] at special
  | finite => simp [unpacked, UnpackedFloat.isFinite] at special

theorem divide_scaled (mantissa : Nat) (exponent : Int) (positive : 0 < period) :
    let whole := (mantissa <<< exponent.toNat) % (period <<< (-exponent).toNat)
    (whole : ℚ) * 2 ^ min exponent 0 < period ∧
      ∃ turns : Nat, (mantissa : ℚ) * 2 ^ exponent =
        whole * 2 ^ min exponent 0 + turns * period := by
  intro whole
  let turns := (mantissa <<< exponent.toNat) / (period <<< (-exponent).toNat)
  have divided := Nat.mod_add_div (mantissa <<< exponent.toNat) (period <<< (-exponent).toNat)
  have smaller : whole < period <<< (-exponent).toNat := by
    apply Nat.mod_lt
    rw [Nat.shiftLeft_eq]
    positivity
  have scaled : (mantissa : ℚ) * 2 ^ exponent =
      ((mantissa <<< exponent.toNat : Nat) : ℚ) * 2 ^ min exponent 0 := by
    rw [Nat.shiftLeft_eq]
    push_cast
    rw [mul_assoc, ← zpow_natCast, ← zpow_add₀ two_ne_zero]
    congr 2
    omega
  have unscaled : ((period <<< (-exponent).toNat : Nat) : ℚ) * 2 ^ min exponent 0 = period := by
    have inverse : (((-exponent).toNat : Nat) : Int) + min exponent 0 = 0 := by omega
    rw [Nat.shiftLeft_eq]
    push_cast
    rw [mul_assoc, ← zpow_natCast, ← zpow_add₀ two_ne_zero, inverse, zpow_zero, mul_one]
  constructor
  · rw [← unscaled]
    gcongr
  · refine ⟨turns, ?_⟩
    rw [scaled, ← divided, Nat.cast_add, Nat.cast_mul]
    linear_combination (turns : ℚ) * unscaled

theorem remainder_of_finite {sign : Sign} {mantissa : Nat} {exponent : Int}
    {positive : 0 < mantissa} (notBelow : ¬ double.abs < period.toFloat)
    (unpacked : double.toModel.unpack = .finite sign mantissa exponent positive) :
    remainder double period = .ofModel (Float.Model.pack (UnpackedFloat.round Format.binary64 sign
      ((mantissa <<< exponent.toNat) % (period <<< (-exponent).toNat)) (min exponent 0))) := by
  rw [remainder, if_neg notBelow, unpacked]

theorem whole_lt {mantissa : Nat} (short : mantissa < 2 ^ 53) (exactPeriod : IsPeriod period)
    (exponent : Int) :
    (mantissa <<< exponent.toNat) % (period <<< (-exponent).toNat) < 2 ^ 53 := by
  rcases le_total 0 exponent with whole | fraction
  · have unshifted : (-exponent).toNat = 0 := by omega
    rw [unshifted, Nat.shiftLeft_zero]
    exact (Nat.mod_lt _ exactPeriod.positive).trans exactPeriod.short
  · have unshifted : exponent.toNat = 0 := by omega
    rw [unshifted, Nat.shiftLeft_zero]
    exact (Nat.mod_le _ _).trans_lt short

theorem remainder_spec (exactPeriod : IsPeriod period) (finite : double.isFinite = true) :
    (remainder double period).isFinite = true ∧ |value (remainder double period)| < period ∧
      ∃ turns : ℤ, value double = value (remainder double period) + turns * period := by
  have below := lt_iff ((isFinite_abs double).trans finite) exactPeriod.finite
  rw [value_abs, exactPeriod.exact] at below
  by_cases less : double.abs < period.toFloat
  · rw [remainder_of_abs_lt less]
    exact ⟨finite, below.mp less, 0, by simp⟩
  have form := isDouble_unpack double.toModel
  obtain ⟨sign, unpacked⟩ | ⟨sign, mantissa, exponent, positive, unpacked⟩ := finite_cases finite
  · have positive : (0 : ℚ) < period := by exact_mod_cast exactPeriod.positive
    have nothing : value double = 0 := congrArg exact unpacked
    rw [below, nothing, abs_zero] at less
    exact absurd positive less
  · rw [unpacked] at form
    obtain ⟨short, low, high, _⟩ := form
    have least : -1074 ≤ min exponent 0 := by omega
    have greatest : min exponent 0 ≤ 971 := by omega
    obtain ⟨smaller, turns, divided⟩ := divide_scaled mantissa exponent exactPeriod.positive
    obtain ⟨rounded, number, same⟩ :=
      round_exact sign (whole_lt short exactPeriod exponent) least greatest
    have valued : value double = sign.apply mantissa * 2 ^ exponent := congrArg exact unpacked
    rw [remainder_of_finite less unpacked, value_pack rounded, isFinite_pack rounded, same, valued]
    generalize (mantissa <<< exponent.toNat) % (period <<< (-exponent).toNat) = whole
      at smaller divided number ⊢
    have notNegative : (0 : ℚ) ≤ whole * 2 ^ min exponent 0 := by positivity
    refine ⟨number, ?_, sign.apply turns, ?_⟩
    · cases sign with
      | positive => simpa [Sign.apply, abs_of_nonneg notNegative] using smaller
      | negative => simpa [Sign.apply, abs_of_nonneg notNegative] using smaller
    · cases sign with
      | positive => simpa [Sign.apply] using divided
      | negative =>
          simp only [Sign.apply]
          push_cast
          linear_combination -divided

end

end TurtleGraphics.Number
