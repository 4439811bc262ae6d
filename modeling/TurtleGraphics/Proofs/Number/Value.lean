import TurtleGraphics.Proofs.Number.Binary64

set_option autoImplicit false

/-!
# The values of doubles

A finite double stands for a rational number, and comparing finite doubles is comparing these.
-/

namespace TurtleGraphics.Number

open Float.Model Float.Model.UnpackedFloat

/-- The number that a finite double stands for. There is none for an infinity or NaN. -/
def exact : UnpackedFloat → ℚ
  | .finite sign mantissa exponent _ => sign.apply mantissa * 2 ^ exponent
  | .infinity _ => 0
  | .notANumber => 0
  | .zero _ => 0

def value (double : Float) : ℚ :=
  exact double.toModel.unpack

theorem finite_cases {unpacked : UnpackedFloat} (finite : unpacked.isFinite = true) :
    (∃ sign, unpacked = .zero sign) ∨
      ∃ sign mantissa exponent positive,
        unpacked = .finite sign mantissa exponent positive := by
  cases unpacked with
  | notANumber => cases finite
  | infinity => cases finite
  | zero sign => exact .inl ⟨sign, rfl⟩
  | finite sign mantissa exponent positive =>
      exact .inr ⟨sign, mantissa, exponent, positive, rfl⟩

/-! ### Order -/

/-- The number with the larger exponent is larger, since it uses all bits of its mantissa. -/
theorem mul_two_zpow_lt {small large : Nat} {low high : Int} (short : small < 2 ^ 53)
    (filled : 2 ^ 52 ≤ large) (lower : low < high) : (small : ℚ) * 2 ^ low < large * 2 ^ high :=
  calc (small : ℚ) * 2 ^ low
      < 2 ^ 53 * 2 ^ low := by gcongr; exact_mod_cast short
    _ = 2 ^ 52 * 2 ^ (low + 1) := by rw [zpow_add_one₀ two_ne_zero]; ring
    _ ≤ large * 2 ^ high := by
        gcongr
        · exact_mod_cast filled
        · exact one_le_two
        · exact lower

theorem compares_magnitude {mantissa otherMantissa : Nat} {exponent otherExponent : Int}
    {positive : 0 < mantissa} {otherPositive : 0 < otherMantissa} {sign otherSign : Sign}
    (double : IsDouble (.finite sign mantissa exponent positive))
    (otherDouble : IsDouble (.finite otherSign otherMantissa otherExponent otherPositive)) :
    ((compare exponent otherExponent).then (compare mantissa otherMantissa)).Compares
      ((mantissa : ℚ) * 2 ^ exponent) (otherMantissa * 2 ^ otherExponent) := by
  -- With equal exponents the mantissas decide.
  obtain ⟨short, low, _, form⟩ := double
  obtain ⟨otherShort, otherLow, _, otherForm⟩ := otherDouble
  rcases lt_trichotomy exponent otherExponent with lower | rfl | higher
  · rw [Int.compare_eq_lt.mpr lower]
    exact mul_two_zpow_lt short (otherForm.resolve_right (by omega)) lower
  · rw [Int.compare_eq_eq.mpr rfl]
    have scale : StrictMono fun mantissa : ℕ => (mantissa : ℚ) * 2 ^ exponent :=
      (Nat.strictMono_cast).mul_const (by positivity)
    refine scale.compares.mpr ?_
    rcases lt_trichotomy mantissa otherMantissa with less | rfl | more
    · rw [Nat.compare_eq_lt.mpr less]
      exact less
    · rw [Nat.compare_eq_eq.mpr rfl]
      exact rfl
    · rw [Nat.compare_eq_gt.mpr more]
      exact more
  · rw [Int.compare_eq_gt.mpr higher]
    exact mul_two_zpow_lt otherShort (form.resolve_right (by omega)) higher

theorem compares_neg {order : Ordering} {left right : ℚ} (compares : order.Compares left right) :
    order.swap.Compares (-left) (-right) := by
  cases order with
  | lt => exact neg_lt_neg compares
  | eq => exact congrArg Neg.neg compares
  | gt => exact neg_lt_neg compares

/-- Finite doubles compare as their values do, and zeros of both signs are equal. -/
theorem compare_spec {unpacked other : UnpackedFloat} (double : IsDouble unpacked)
    (otherDouble : IsDouble other) (finite : unpacked.isFinite = true)
    (otherFinite : other.isFinite = true) :
    ∃ order, unpacked.compare other = some order ∧
      order.Compares (exact unpacked) (exact other) := by
  obtain ⟨sign, rfl⟩ | ⟨sign, mantissa, exponent, positive, rfl⟩ := finite_cases finite
  · obtain ⟨otherSign, rfl⟩ | ⟨otherSign, mantissa, exponent, positive, rfl⟩ :=
      finite_cases otherFinite
    · exact ⟨.eq, rfl, rfl⟩
    · have magnitude : (0 : ℚ) < mantissa * 2 ^ exponent := by positivity
      cases otherSign with
      | positive => exact ⟨.lt, rfl, by simpa [exact, Sign.apply] using magnitude⟩
      | negative => exact ⟨.gt, rfl, by simpa [exact, Sign.apply] using magnitude⟩
  · have magnitude : (0 : ℚ) < mantissa * 2 ^ exponent := by positivity
    obtain ⟨otherSign, rfl⟩ | ⟨otherSign, otherMantissa, otherExponent, otherPositive, rfl⟩ :=
      finite_cases otherFinite
    · cases sign with
      | positive => exact ⟨.gt, rfl, by simpa [exact, Sign.apply] using magnitude⟩
      | negative => exact ⟨.lt, rfl, by simpa [exact, Sign.apply] using magnitude⟩
    · have otherMagnitude : (0 : ℚ) < otherMantissa * 2 ^ otherExponent := by positivity
      have compares := compares_magnitude double otherDouble
      cases sign with
      | positive =>
          cases otherSign with
          | positive => exact ⟨_, rfl, by simpa [exact, Sign.apply] using compares⟩
          | negative =>
              refine ⟨.gt, rfl, ?_⟩
              simp only [exact, Sign.apply, Ordering.Compares]
              push_cast
              linarith
      | negative =>
          cases otherSign with
          | positive =>
              refine ⟨.lt, rfl, ?_⟩
              simp only [exact, Sign.apply, Ordering.Compares]
              push_cast
              linarith
          | negative =>
              have reversed := compares_neg compares
              exact ⟨_, rfl, by simpa [exact, Sign.apply] using reversed⟩

/-! ### Doubles -/

theorem eq_of_unpack_eq {left right : Float}
    (same : left.toModel.unpack = right.toModel.unpack) : left = right := by
  have models : left.toModel = right.toModel := by
    rw [← pack_unpack left.toModel, same, pack_unpack]
  cases left
  cases right
  exact congrArg Float.ofModel models

theorem eq_nan_of_isNaN {double : Float} (notANumber : double.isNaN = true) :
    double = 0.0 / 0.0 := by
  change double.toModel.unpack.isNaN = true at notANumber
  apply eq_of_unpack_eq
  cases unpacked : double.toModel.unpack with
  | notANumber => rfl
  | infinity | zero | finite => rw [unpacked] at notANumber; cases notANumber

theorem isNaN_of_isFinite {double : Float} (finite : double.isFinite = true) :
    double.isNaN = false := by
  change double.toModel.unpack.isFinite = true at finite
  change double.toModel.unpack.isNaN = false
  obtain ⟨sign, zero⟩ | ⟨sign, mantissa, exponent, positive, number⟩ := finite_cases finite
  · rw [zero]
    rfl
  · rw [number]
    rfl

theorem value_pack {unpacked : UnpackedFloat} (double : IsDouble unpacked) :
    value (.ofModel (Float.Model.pack unpacked)) = exact unpacked :=
  congrArg exact (unpack_pack double)

theorem isFinite_pack {unpacked : UnpackedFloat} (double : IsDouble unpacked) :
    (Float.ofModel (Float.Model.pack unpacked)).isFinite = unpacked.isFinite :=
  congrArg UnpackedFloat.isFinite (unpack_pack double)

theorem lt_iff_compare (left right : Float) :
    left < right ↔ left.toModel.unpack.compare right.toModel.unpack = some .lt := by
  change (decide (UnpackedFloat.lt _ _ = true)) = true ↔ _
  rw [decide_eq_true_iff, UnpackedFloat.lt, beq_iff_eq]

theorem le_iff_compare (left right : Float) :
    left ≤ right ↔ ∃ order, left.toModel.unpack.compare right.toModel.unpack = some order ∧
      order ≠ .gt := by
  change (decide (UnpackedFloat.le _ _ = true)) = true ↔ _
  rw [decide_eq_true_iff, UnpackedFloat.le, Option.any_eq_true]
  simp only [Ordering.isLE_iff_ne_gt]

theorem compare_swap (unpacked other : UnpackedFloat) :
    other.compare unpacked = (unpacked.compare other).map Ordering.swap := by
  cases unpacked with
  | notANumber => cases other <;> rfl
  | infinity sign =>
      cases other with
      | infinity otherSign => cases sign <;> cases otherSign <;> rfl
      | notANumber | zero | finite => cases sign <;> rfl
  | zero sign =>
      cases other with
      | infinity otherSign | finite otherSign => cases otherSign <;> rfl
      | notANumber | zero => rfl
  | finite sign mantissa exponent positive =>
      cases other with
      | notANumber => rfl
      | zero => cases sign <;> rfl
      | infinity otherSign => cases otherSign <;> rfl
      | finite otherSign otherMantissa otherExponent otherPositive =>
          cases sign <;> cases otherSign <;>
            simp [UnpackedFloat.compare, Ordering.swap_then, Int.compare_swap, Nat.compare_swap]

theorem isSome_compare {unpacked other : UnpackedFloat} (number : unpacked.isNaN = false)
    (otherNumber : other.isNaN = false) : (unpacked.compare other).isSome = true := by
  cases unpacked with
  | notANumber => cases number
  | infinity sign =>
      cases other with
      | notANumber => cases otherNumber
      | infinity | zero | finite => cases sign <;> rfl
  | zero =>
      cases other with
      | notANumber => cases otherNumber
      | infinity otherSign | finite otherSign => cases otherSign <;> rfl
      | zero => rfl
  | finite sign =>
      cases other with
      | notANumber => cases otherNumber
      | infinity otherSign | finite otherSign => cases sign <;> cases otherSign <;> rfl
      | zero => cases sign <;> rfl

section Order

variable {left right : Float}

theorem le_of_not_lt (leftNumber : left.isNaN = false) (rightNumber : right.isNaN = false)
    (notLess : ¬ left < right) : right ≤ left := by
  rw [lt_iff_compare] at notLess
  obtain ⟨order, compared⟩ := Option.isSome_iff_exists.mp (isSome_compare leftNumber rightNumber)
  rw [le_iff_compare, compare_swap, compared]
  refine ⟨order.swap, rfl, ?_⟩
  rintro greater
  rw [compared, Ordering.swap_eq_gt.mp greater] at notLess
  exact notLess rfl

theorem lt_of_not_le (leftNumber : left.isNaN = false) (rightNumber : right.isNaN = false)
    (notBelow : ¬ left ≤ right) : right < left := by
  rw [le_iff_compare] at notBelow
  obtain ⟨order, compared⟩ := Option.isSome_iff_exists.mp (isSome_compare leftNumber rightNumber)
  have greater : order = .gt := Decidable.not_not.mp fun other => notBelow ⟨order, compared, other⟩
  rw [lt_iff_compare, compare_swap, compared, greater]
  rfl

theorem isFinite_of_le_of_lt {double : Float} (leftFinite : left.isFinite = true)
    (above : left ≤ double) (below : double < right) : double.isFinite = true := by
  obtain ⟨order, compared, notGreater⟩ := (le_iff_compare left double).mp above
  rw [lt_iff_compare] at below
  change double.toModel.unpack.isFinite = true
  generalize double.toModel.unpack = unpacked at compared below ⊢
  change left.toModel.unpack.isFinite = true at leftFinite
  generalize left.toModel.unpack = lower at compared leftFinite
  generalize right.toModel.unpack = upper at below
  cases unpacked with
  | zero => rfl
  | finite => rfl
  | notANumber => cases below
  | infinity sign =>
      cases sign with
      | positive =>
          cases upper with
          | infinity otherSign => cases otherSign <;> cases below
          | notANumber | zero | finite => cases below
      | negative =>
          cases lower with
          | notANumber => cases leftFinite
          | infinity => cases leftFinite
          | zero =>
              cases compared
              exact absurd rfl notGreater
          | finite otherSign =>
              cases otherSign <;> cases compared <;> exact absurd rfl notGreater

theorem lt_iff (leftFinite : left.isFinite = true) (rightFinite : right.isFinite = true) :
    left < right ↔ value left < value right := by
  obtain ⟨order, compared, compares⟩ := compare_spec (isDouble_unpack left.toModel)
    (isDouble_unpack right.toModel) leftFinite rightFinite
  rw [lt_iff_compare, compared, Option.some.injEq]
  exact compares.eq_lt

theorem le_iff (leftFinite : left.isFinite = true) (rightFinite : right.isFinite = true) :
    left ≤ right ↔ value left ≤ value right := by
  obtain ⟨order, compared, compares⟩ := compare_spec (isDouble_unpack left.toModel)
    (isDouble_unpack right.toModel) leftFinite rightFinite
  rw [le_iff_compare, compared]
  simp only [Option.some.injEq, exists_eq_left']
  exact compares.ne_gt

end Order

/-! ### Magnitudes -/

theorem isDouble_abs {unpacked : UnpackedFloat} (double : IsDouble unpacked) :
    IsDouble unpacked.abs := by
  cases unpacked with
  | notANumber => exact double
  | infinity => trivial
  | zero => trivial
  | finite => exact double

theorem unpack_abs (double : Float) : double.abs.toModel.unpack = double.toModel.unpack.abs :=
  unpack_pack (isDouble_abs (isDouble_unpack double.toModel))

theorem isFinite_abs (double : Float) : double.abs.isFinite = double.isFinite := by
  change double.abs.toModel.unpack.isFinite = double.toModel.unpack.isFinite
  rw [unpack_abs]
  cases double.toModel.unpack <;> rfl

theorem abs_exact_finite (sign : Sign) {mantissa : Nat} (exponent : Int) (positive : 0 < mantissa) :
    |exact (.finite sign mantissa exponent positive)| = mantissa * 2 ^ exponent := by
  cases sign <;> simp [exact, Sign.apply, abs_mul]

theorem value_abs (double : Float) : value double.abs = |value double| := by
  rw [value, value, unpack_abs]
  cases double.toModel.unpack with
  | notANumber => exact abs_zero.symm
  | infinity => exact abs_zero.symm
  | zero => exact abs_zero.symm
  | finite sign mantissa exponent positive =>
      have magnitude : (0 : ℚ) < mantissa * 2 ^ exponent := by positivity
      cases sign <;> simp [exact, UnpackedFloat.abs, Sign.apply, abs_mul]

theorem isFinite_of_abs_lt {double bound : Float} (below : double.abs < bound) :
    double.isFinite = true := by
  rw [lt_iff_compare, unpack_abs] at below
  change double.toModel.unpack.isFinite = true
  cases unpacked : double.toModel.unpack with
  | zero => rfl
  | finite => rfl
  | notANumber =>
      rw [unpacked] at below
      cases below
  | infinity =>
      rw [unpacked] at below
      generalize bound.toModel.unpack = limit at below
      cases limit with
      | infinity sign => cases sign <;> cases below
      | notANumber => cases below
      | zero => cases below
      | finite => cases below

/-! ### Opposites -/

theorem isDouble_neg {unpacked : UnpackedFloat} (double : IsDouble unpacked) :
    IsDouble unpacked.neg := by
  cases unpacked with
  | notANumber => exact double
  | infinity => trivial
  | zero => trivial
  | finite => exact double

theorem unpack_neg (double : Float) : (-double).toModel.unpack = double.toModel.unpack.neg :=
  unpack_pack (isDouble_neg (isDouble_unpack double.toModel))

theorem isFinite_neg (double : Float) : (-double).isFinite = double.isFinite := by
  change (-double).toModel.unpack.isFinite = double.toModel.unpack.isFinite
  rw [unpack_neg]
  cases double.toModel.unpack <;> rfl

/-- The opposite has the other sign and nothing else changed. NaN has no sign. -/
theorem neg_neg (double : Float) : - -double = double := by
  apply eq_of_unpack_eq
  rw [unpack_neg, unpack_neg]
  cases double.toModel.unpack with
  | notANumber => rfl
  | infinity sign => cases sign <;> rfl
  | zero sign => cases sign <;> rfl
  | finite sign => cases sign <;> rfl

end TurtleGraphics.Number
