import TurtleGraphics.Proofs.Number.Nearest

set_option autoImplicit false

/-!
# The places of doubles

All doubles but NaN have a place among the numbers, and comparing them is comparing their places.
Sums and products of finite doubles stand where the exact result is rounded to, so they keep the
order of what is added or multiplied. Infinities keep it too.
-/

namespace TurtleGraphics.Number

open Float.Model Float.Model.UnpackedFloat

def place (double : Float) : ℚ :=
  standing double.toModel.unpack

theorem place_of_isFinite {double : Float} (finite : double.isFinite = true) :
    place double = value double :=
  standing_of_isFinite finite

/-! ### Order -/

/-- No double is farther from zero than the one with the largest mantissa and exponent. -/
theorem abs_value_le (double : Float) : |value double| ≤ limit - 2 ^ (971 : Int) := by
  have largest : limit - 2 ^ (971 : Int) = (2 ^ 53 - 1) * 2 ^ (971 : Int) := by
    rw [limit_eq]
    ring
  have form := isDouble_unpack double.toModel
  rw [value, largest]
  cases unpacked : double.toModel.unpack with
  | notANumber | infinity | zero =>
      rw [exact, abs_zero]
      positivity
  | finite sign mantissa exponent positive =>
      rw [unpacked] at form
      obtain ⟨short, -, high, -⟩ := form
      have digits : (mantissa : ℚ) ≤ 2 ^ 53 - 1 := by
        rw [le_sub_iff_add_le]
        exact_mod_cast short
      rw [abs_exact_finite]
      gcongr
      exact one_le_two

theorem abs_value_lt_limit (double : Float) : |value double| < limit :=
  (abs_value_le double).trans_lt (sub_lt_self limit (two_zpow_pos 971))

section Order

variable {left right : Float}

/-- An infinity, a number in range or NaN. -/
theorem cases_of_isNaN {double : Float} (number : double.isNaN = false) :
    double.isFinite = true ∨ ∃ sign, double.toModel.unpack = .infinity sign := by
  change double.toModel.unpack.isNaN = false at number
  change double.toModel.unpack.isFinite = true ∨ _
  cases unpacked : double.toModel.unpack with
  | notANumber =>
      rw [unpacked] at number
      cases number
  | infinity sign => exact .inr ⟨sign, rfl⟩
  | zero | finite => exact .inl rfl

theorem place_of_infinity {double : Float} {sign : Sign}
    (infinite : double.toModel.unpack = .infinity sign) : place double = signed sign limit := by
  rw [place, infinite, standing]

theorem compare_infinity (sign : Sign) {unpacked : UnpackedFloat}
    (finite : unpacked.isFinite = true) :
    unpacked.compare (.infinity sign) =
      some (match sign with | .negative => .gt | .positive => .lt) := by
  obtain ⟨_, rfl⟩ | ⟨_, _, _, _, rfl⟩ := finite_cases finite <;> cases sign <;> rfl

theorem compare_places_of_infinity {sign : Sign} (leftFinite : left.isFinite = true)
    (rightInfinite : right.toModel.unpack = .infinity sign) :
    ∃ order, left.toModel.unpack.compare right.toModel.unpack = some order ∧
      order.Compares (place left) (place right) := by
  obtain ⟨above, below⟩ := abs_lt.mp (abs_value_lt_limit left)
  rw [rightInfinite, compare_infinity sign leftFinite, place_of_isFinite leftFinite,
    place_of_infinity rightInfinite]
  cases sign with
  | negative => exact ⟨.gt, rfl, above⟩
  | positive => exact ⟨.lt, rfl, below⟩

theorem compare_places (leftNumber : left.isNaN = false) (rightNumber : right.isNaN = false) :
    ∃ order, left.toModel.unpack.compare right.toModel.unpack = some order ∧
      order.Compares (place left) (place right) := by
  rcases cases_of_isNaN leftNumber with leftFinite | ⟨sign, leftInfinite⟩
  · rcases cases_of_isNaN rightNumber with rightFinite | ⟨otherSign, rightInfinite⟩
    · rw [place_of_isFinite leftFinite, place_of_isFinite rightFinite]
      exact compare_spec (isDouble_unpack left.toModel) (isDouble_unpack right.toModel) leftFinite
        rightFinite
    · exact compare_places_of_infinity leftFinite rightInfinite
  · rcases cases_of_isNaN rightNumber with rightFinite | ⟨otherSign, rightInfinite⟩
    · obtain ⟨order, compared, compares⟩ := compare_places_of_infinity rightFinite leftInfinite
      rw [compare_swap, compared]
      exact ⟨order.swap, rfl, Ordering.compares_swap.mpr compares⟩
    · have apart : -limit < limit := neg_lt_self limit_pos
      rw [place_of_infinity leftInfinite, leftInfinite, place_of_infinity rightInfinite,
        rightInfinite]
      cases sign <;> cases otherSign
      · exact ⟨.eq, rfl, rfl⟩
      · exact ⟨.lt, rfl, apart⟩
      · exact ⟨.gt, rfl, apart⟩
      · exact ⟨.eq, rfl, rfl⟩

theorem le_iff_place (leftNumber : left.isNaN = false) (rightNumber : right.isNaN = false) :
    left ≤ right ↔ place left ≤ place right := by
  obtain ⟨order, compared, compares⟩ := compare_places leftNumber rightNumber
  rw [le_iff_compare, compared]
  simp only [Option.some.injEq, exists_eq_left']
  exact compares.ne_gt

theorem isNaN_of_le (ordered : left ≤ right) : left.isNaN = false ∧ right.isNaN = false := by
  obtain ⟨order, compared, -⟩ := (le_iff_compare left right).mp ordered
  change left.toModel.unpack.isNaN = false ∧ right.toModel.unpack.isNaN = false
  cases leftForm : left.toModel.unpack with
  | notANumber =>
      rw [leftForm] at compared
      cases compared
  | infinity | zero | finite =>
      cases rightForm : right.toModel.unpack with
      | notANumber =>
          rw [leftForm, rightForm] at compared
          cases compared
      | infinity | zero | finite => exact ⟨rfl, rfl⟩

end Order

/-! ### Exact results -/

/-- A finite double and the number that it stands for. -/
def StandsFor (double : Float) (number : ℚ) : Prop :=
  double.isFinite = true ∧ value double = number

theorem standsFor_of_unpack {double : Float} {sign : Sign} {mantissa : Nat} {exponent : Int}
    {positive : 0 < mantissa}
    (unpacked : double.toModel.unpack = .finite sign mantissa exponent positive) :
    StandsFor double (signed sign (mantissa * 2 ^ exponent)) := by
  rw [StandsFor, value, unpacked, exact_finite]
  exact ⟨congrArg UnpackedFloat.isFinite unpacked, rfl⟩

theorem standsFor_zero : StandsFor 0.0 0 :=
  ⟨rfl, rfl⟩

theorem standsFor_one : StandsFor 1.0 1 := by
  have unpacked : (1.0 : Float).toModel.unpack = .finite .positive (2 ^ 52) (-52) (by decide) := by
    rfl
  have stands := standsFor_of_unpack unpacked
  norm_num [signed] at stands
  exact stands

/-- A number that is a place of doubles and stays where it is when it is rounded. -/
def Fits (number : ℚ) : Prop :=
  nearest number = number ∧ |number| < limit

theorem fits_of_short (sign : Sign) {mantissa : Nat} {exponent : Int} (short : mantissa < 2 ^ 53)
    (low : -1074 ≤ exponent) (high : exponent ≤ 971) :
    Fits (signed sign (mantissa * 2 ^ exponent)) := by
  have notNegative : (0 : ℚ) ≤ mantissa * 2 ^ exponent := by positivity
  have below : (mantissa : ℚ) * 2 ^ exponent < limit := by
    rw [limit_eq]
    calc (mantissa : ℚ) * 2 ^ exponent < 2 ^ 53 * 2 ^ exponent := by
          gcongr
          exact_mod_cast short
      _ ≤ 2 ^ 53 * 2 ^ (971 : Int) := by
          gcongr
          exact one_le_two
  constructor
  · rw [nearest_signed sign notNegative, nearestMagnitude_of_short short low]
  · cases sign <;> simpa [signed, abs_of_nonneg notNegative] using below

theorem fits_value (double : Float) : Fits (value double) := by
  have form := isDouble_unpack double.toModel
  rw [value]
  cases unpacked : double.toModel.unpack with
  | notANumber | infinity | zero =>
      have zero : Fits (signed .positive ((0 : Nat) * 2 ^ (0 : Int))) :=
        fits_of_short .positive (by decide) (by decide) (by decide)
      rwa [Nat.cast_zero, zero_mul] at zero
  | finite sign mantissa exponent positive =>
      rw [unpacked] at form
      obtain ⟨short, low, high, -⟩ := form
      rw [exact_finite]
      exact fits_of_short sign short low high

theorem fits_intCast {number : Int} (short : |number| < 2 ^ 53) : Fits (number : ℚ) := by
  rw [Int.abs_eq_natAbs] at short
  have digits : number.natAbs < 2 ^ 53 := by omega
  have fits := fun sign => fits_of_short sign digits (by decide : (-1074 : Int) ≤ 0) (by decide)
  simp only [zpow_zero, mul_one, ← Int.cast_natCast (R := ℚ)] at fits
  obtain positive | negative := Int.natAbs_eq number
  · rw [positive]
    exact fits .positive
  · rw [negative, Int.cast_neg]
    exact fits .negative

theorem Fits.confined_nearest {number : ℚ} (fits : Fits number) :
    confined (nearest number) = number := by
  obtain ⟨above, below⟩ := abs_lt.mp fits.2
  rw [fits.1, confined, min_eq_right below.le, max_eq_right above.le]

theorem Fits.nearestMagnitude_eq {number : ℚ} (fits : Fits number) (notNegative : 0 ≤ number) :
    nearestMagnitude number = number :=
  (nearest_of_nonneg notNegative).symm.trans fits.1

theorem isFinite_of_abs_place_lt {double : Float} (number : double.isNaN = false)
    (inside : |place double| < limit) : double.isFinite = true := by
  rcases cases_of_isNaN number with finite | ⟨sign, infinite⟩
  · exact finite
  · rw [place_of_infinity infinite] at inside
    cases sign <;> simp [signed, abs_of_pos limit_pos] at inside

/-- A rounded result that fits is exact. -/
theorem standsFor_of_place {double : Float} {number : ℚ} (isNumber : double.isNaN = false)
    (placed : place double = confined (nearest number)) (fits : Fits number) :
    StandsFor double number := by
  rw [fits.confined_nearest] at placed
  have finite : double.isFinite = true := by
    apply isFinite_of_abs_place_lt isNumber
    rw [placed]
    exact fits.2
  exact ⟨finite, (place_of_isFinite finite).symm.trans placed⟩

theorem StandsFor.of_isFinite {double : Float} (finite : double.isFinite = true) :
    StandsFor double (value double) :=
  ⟨finite, rfl⟩

theorem standing_of_place {unpacked : UnpackedFloat} (double : IsDouble unpacked)
    (finite : unpacked.isFinite = true) :
    (Float.Model.pack unpacked).unpack.isNaN = false ∧
      standing (Float.Model.pack unpacked).unpack = confined (nearest (exact unpacked)) := by
  have fits := fits_value (.ofModel (Float.Model.pack unpacked))
  rw [value_pack double] at fits
  rw [unpack_pack double, standing_of_isFinite finite, fits.confined_nearest]
  obtain ⟨_, rfl⟩ | ⟨_, _, _, _, rfl⟩ := finite_cases finite <;> exact ⟨rfl, rfl⟩

/-! ### Sums -/

section Operations

variable {left right : Float}

/-- A sum of finite doubles is the exact sum, rounded once. -/
theorem place_add (leftFinite : left.isFinite = true) (rightFinite : right.isFinite = true) :
    (left + right).isNaN = false ∧
      place (left + right) = confined (nearest (value left + value right)) := by
  have leftForm := isDouble_unpack left.toModel
  have rightForm := isDouble_unpack right.toModel
  change (Float.Model.pack (UnpackedFloat.add Format.binary64 left.toModel.unpack
      right.toModel.unpack)).unpack.isNaN = false ∧
    standing (Float.Model.pack (UnpackedFloat.add Format.binary64 left.toModel.unpack
      right.toModel.unpack)).unpack = _
  rw [value, value]
  obtain ⟨sign, zero⟩ | ⟨sign, mantissa, exponent, positive, finite⟩ := finite_cases leftFinite
  · have nothing : exact (.zero sign) = 0 := rfl
    rw [zero, nothing, zero_add]
    obtain ⟨otherSign, otherZero⟩ | ⟨otherSign, otherMantissa, otherExponent, otherPositive,
      otherFinite⟩ := finite_cases rightFinite
    · rw [otherZero]
      cases sign <;> cases otherSign <;> exact standing_of_place trivial rfl
    · rw [otherFinite] at rightForm ⊢
      exact standing_of_place rightForm rfl
  · obtain ⟨otherSign, otherZero⟩ | ⟨otherSign, otherMantissa, otherExponent, otherPositive,
      otherFinite⟩ := finite_cases rightFinite
    · have nothing : exact (.zero otherSign) = 0 := rfl
      rw [finite] at leftForm
      rw [finite, otherZero, nothing, add_zero]
      exact standing_of_place leftForm rfl
    · obtain ⟨total, least, added, sum⟩ := add_finite sign otherSign exponent otherExponent
        positive otherPositive
      rw [finite, otherFinite, added, sum]
      exact standing_pack_normalize total least

/-- A difference is a sum with the opposite, in all cases. -/
theorem sub_eq_add_neg (left right : Float) : left - right = left + -right := by
  have subtracted : UnpackedFloat.sub Format.binary64 left.toModel.unpack right.toModel.unpack =
      UnpackedFloat.add Format.binary64 left.toModel.unpack right.toModel.unpack.neg := by
    cases left.toModel.unpack with
    | notANumber => cases right.toModel.unpack <;> rfl
    | infinity sign => cases right.toModel.unpack <;> rfl
    | zero sign => cases right.toModel.unpack <;> rfl
    | finite sign mantissa exponent positive =>
        cases right.toModel.unpack with
        | notANumber | infinity | zero => rfl
        | finite otherSign =>
            have opposite : ∀ number : Int, (-otherSign).apply number =
                -otherSign.apply number := by
              intro number
              cases otherSign with
              | negative => exact (Int.neg_neg number).symm
              | positive => rfl
            simp only [UnpackedFloat.sub, UnpackedFloat.add, UnpackedFloat.neg, opposite,
              Int.sub_eq_add_neg]
  change Float.ofModel (Float.Model.pack (UnpackedFloat.sub _ _ _)) =
    .ofModel (Float.Model.pack (UnpackedFloat.add _ _ (-right).toModel.unpack))
  rw [subtracted, unpack_neg]

/-! ### Products -/

/-- A product has all the digits that rounding asks for. -/
theorem le_targetExponent_mul {sign otherSign : Sign} {mantissa otherMantissa : Nat}
    {exponent otherExponent : Int} {positive : 0 < mantissa} {otherPositive : 0 < otherMantissa}
    (double : IsDouble (.finite sign mantissa exponent positive))
    (otherDouble : IsDouble (.finite otherSign otherMantissa otherExponent otherPositive)) :
    exponent + otherExponent ≤ Format.binary64.targetExponent
      (totalExponent (mantissa * otherMantissa) (exponent + otherExponent)) := by
  obtain ⟨-, -, -, form⟩ := double
  obtain ⟨-, -, -, otherForm⟩ := otherDouble
  have digits : 2 ^ 52 ≤ mantissa * otherMantissa → 52 ≤ (mantissa * otherMantissa).log2 :=
    (Nat.le_log2 (Nat.mul_pos positive otherPositive).ne').mpr
  rw [targetExponent_eq, totalExponent]
  rcases form with filled | least
  · have enough := digits (filled.trans (Nat.le_mul_of_pos_right _ otherPositive))
    omega
  · rcases otherForm with filled | otherLeast
    · have enough := digits (filled.trans (Nat.le_mul_of_pos_left _ positive))
      omega
    · omega

theorem signed_mul (sign otherSign : Sign) (magnitude otherMagnitude : ℚ) :
    signed sign magnitude * signed otherSign otherMagnitude =
      signed (sign * otherSign) (magnitude * otherMagnitude) := by
  cases sign with
  | negative =>
      cases otherSign with
      | negative => exact neg_mul_neg magnitude otherMagnitude
      | positive => exact neg_mul magnitude otherMagnitude
  | positive =>
      cases otherSign with
      | negative => exact mul_neg magnitude otherMagnitude
      | positive => rfl

theorem exact_mul (sign otherSign : Sign) {mantissa otherMantissa : Nat}
    (exponent otherExponent : Int) (positive : 0 < mantissa) (otherPositive : 0 < otherMantissa) :
    exact (.finite sign mantissa exponent positive) *
        exact (.finite otherSign otherMantissa otherExponent otherPositive) =
      signed (sign * otherSign)
        ((mantissa * otherMantissa : Nat) * 2 ^ (exponent + otherExponent)) := by
  rw [exact_finite, exact_finite, signed_mul, zpow_add₀ two_ne_zero, Nat.cast_mul,
    mul_mul_mul_comm]

/-- A product of finite doubles is the exact product, rounded once. -/
theorem place_mul (leftFinite : left.isFinite = true) (rightFinite : right.isFinite = true) :
    (left * right).isNaN = false ∧
      place (left * right) = confined (nearest (value left * value right)) := by
  have leftForm := isDouble_unpack left.toModel
  have rightForm := isDouble_unpack right.toModel
  change (Float.Model.pack (UnpackedFloat.mul Format.binary64 left.toModel.unpack
      right.toModel.unpack)).unpack.isNaN = false ∧
    standing (Float.Model.pack (UnpackedFloat.mul Format.binary64 left.toModel.unpack
      right.toModel.unpack)).unpack = _
  rw [value, value]
  have nothing : ∀ sign, exact (.zero sign) = 0 := fun _ => rfl
  obtain ⟨sign, zero⟩ | ⟨sign, mantissa, exponent, positive, finite⟩ := finite_cases leftFinite
  · rw [zero, nothing, zero_mul]
    obtain ⟨otherSign, otherZero⟩ | ⟨otherSign, otherMantissa, otherExponent, otherPositive,
      otherFinite⟩ := finite_cases rightFinite
    · rw [otherZero]
      exact standing_of_place trivial rfl
    · rw [otherFinite]
      exact standing_of_place trivial rfl
  · obtain ⟨otherSign, otherZero⟩ | ⟨otherSign, otherMantissa, otherExponent, otherPositive,
      otherFinite⟩ := finite_cases rightFinite
    · rw [finite, otherZero, nothing, mul_zero]
      exact standing_of_place trivial rfl
    · rw [finite] at leftForm ⊢
      rw [otherFinite] at rightForm ⊢
      have notNegative : (0 : ℚ) ≤
          (mantissa * otherMantissa : Nat) * 2 ^ (exponent + otherExponent) := by positivity
      rw [exact_mul, nearest_signed _ notNegative, confined_signed _ (nearestMagnitude_nonneg _)]
      exact standing_pack_roundWithAccuracy _ (Nat.mul_pos positive otherPositive)
        (le_targetExponent_mul leftForm rightForm)

end Operations

theorem StandsFor.add {left right : Float} {number other : ℚ} (stands : StandsFor left number)
    (otherStands : StandsFor right other) (fits : Fits (number + other)) :
    StandsFor (left + right) (number + other) := by
  obtain ⟨finite, rfl⟩ := stands
  obtain ⟨otherFinite, rfl⟩ := otherStands
  obtain ⟨isNumber, placed⟩ := place_add finite otherFinite
  exact standsFor_of_place isNumber placed fits

theorem StandsFor.mul {left right : Float} {number other : ℚ} (stands : StandsFor left number)
    (otherStands : StandsFor right other) (fits : Fits (number * other)) :
    StandsFor (left * right) (number * other) := by
  obtain ⟨finite, rfl⟩ := stands
  obtain ⟨otherFinite, rfl⟩ := otherStands
  obtain ⟨isNumber, placed⟩ := place_mul finite otherFinite
  exact standsFor_of_place isNumber placed fits

/-! ### Opposites -/

theorem isNaN_neg (double : Float) : (-double).isNaN = double.isNaN := by
  change (-double).toModel.unpack.isNaN = double.toModel.unpack.isNaN
  rw [unpack_neg]
  cases double.toModel.unpack <;> rfl

theorem place_neg (double : Float) : place (-double) = -place double := by
  rw [place, place, unpack_neg]
  cases double.toModel.unpack with
  | notANumber | zero => exact neg_zero.symm
  | infinity sign =>
      cases sign with
      | negative => exact (InvolutiveNeg.neg_neg limit).symm
      | positive => rfl
  | finite sign mantissa exponent positive =>
      simp only [UnpackedFloat.neg, standing, exact_finite]
      cases sign with
      | negative => exact (InvolutiveNeg.neg_neg _).symm
      | positive => rfl

theorem StandsFor.neg {double : Float} {number : ℚ} (stands : StandsFor double number) :
    StandsFor (-double) (-number) := by
  obtain ⟨finite, rfl⟩ := stands
  have oppositeFinite : (-double).isFinite = true := (isFinite_neg double).trans finite
  refine ⟨oppositeFinite, ?_⟩
  rw [← place_of_isFinite oppositeFinite, place_neg, place_of_isFinite finite]

theorem neg_le_neg {small large : Float} (ordered : small ≤ large) : -large ≤ -small := by
  obtain ⟨smallNumber, largeNumber⟩ := isNaN_of_le ordered
  rw [le_iff_place smallNumber largeNumber] at ordered
  rw [le_iff_place ((isNaN_neg large).trans largeNumber) ((isNaN_neg small).trans smallNumber),
    place_neg, place_neg]
  linarith

/-! ### Operations that keep the order -/

/-- An operation that rounds a function of numbers and leaves infinities as they are. -/
structure Rounds (operation : Float → Float) (function : ℚ → ℚ) : Prop where
  finite : ∀ double, double.isFinite = true → (operation double).isNaN = false ∧
    place (operation double) = confined (nearest (function (value double)))
  infinite : ∀ double sign, double.toModel.unpack = .infinity sign →
    (operation double).toModel.unpack = .infinity sign

namespace Rounds

variable {operation : Float → Float} {function : ℚ → ℚ}

theorem abs_confined_le (number : ℚ) : |confined number| ≤ limit := by
  have positive := limit_pos
  rw [abs_le]
  exact ⟨le_max_left _ _, max_le (by linarith) (min_le_left _ _)⟩

theorem isNaN_of_infinity {double : Float} {sign : Sign}
    (infinite : double.toModel.unpack = .infinity sign) : double.isNaN = false := by
  change double.toModel.unpack.isNaN = false
  rw [infinite]
  rfl

theorem isNaN (rounds : Rounds operation function) {double : Float}
    (number : double.isNaN = false) : (operation double).isNaN = false := by
  rcases cases_of_isNaN number with finite | ⟨sign, infinite⟩
  · exact (rounds.finite double finite).1
  · exact isNaN_of_infinity (rounds.infinite double sign infinite)

theorem abs_place_le (rounds : Rounds operation function) {double : Float}
    (number : double.isNaN = false) : |place (operation double)| ≤ limit := by
  rcases cases_of_isNaN number with finite | ⟨sign, infinite⟩
  · rw [(rounds.finite double finite).2]
    exact abs_confined_le _
  · rw [place_of_infinity (rounds.infinite double sign infinite)]
    cases sign <;> simp [signed, abs_of_pos limit_pos]

theorem place_of_not_isFinite (rounds : Rounds operation function) {double : Float}
    (number : double.isNaN = false) (special : double.isFinite = false) :
    place (operation double) = place double ∧ (place double = limit ∨ place double = -limit) := by
  rcases cases_of_isNaN number with finite | ⟨sign, infinite⟩
  · rw [finite] at special
    cases special
  · rw [place_of_infinity infinite, place_of_infinity (rounds.infinite double sign infinite)]
    cases sign with
    | negative => exact ⟨rfl, .inr rfl⟩
    | positive => exact ⟨rfl, .inl rfl⟩

/-- Rounding an increasing function keeps the order, also where the result overflows. -/
theorem mono (rounds : Rounds operation function) (increasing : Monotone function)
    {small large : Float} (ordered : small ≤ large) : operation small ≤ operation large := by
  obtain ⟨smallNumber, largeNumber⟩ := isNaN_of_le ordered
  rw [le_iff_place smallNumber largeNumber] at ordered
  rw [le_iff_place (rounds.isNaN smallNumber) (rounds.isNaN largeNumber)]
  have smallInside := abs_le.mp (rounds.abs_place_le smallNumber)
  have largeInside := abs_le.mp (rounds.abs_place_le largeNumber)
  -- An infinity at the outer end settles the matter, one at the inner end makes the other equal.
  cases smallFinite : small.isFinite with
  | true =>
      have smallAbove := (abs_lt.mp (abs_value_lt_limit small)).1
      rw [place_of_isFinite smallFinite] at ordered
      cases largeFinite : large.isFinite with
      | true =>
          rw [place_of_isFinite largeFinite] at ordered
          rw [(rounds.finite small smallFinite).2, (rounds.finite large largeFinite).2]
          exact confined_mono (nearest_mono (increasing ordered))
      | false =>
          obtain ⟨kept, highest | lowest⟩ := rounds.place_of_not_isFinite largeNumber largeFinite
          · linarith
          · linarith
  | false =>
      obtain ⟨kept, highest | lowest⟩ := rounds.place_of_not_isFinite smallNumber smallFinite
      · cases largeFinite : large.isFinite with
        | true =>
            have largeBelow := (abs_lt.mp (abs_value_lt_limit large)).2
            rw [place_of_isFinite largeFinite] at ordered
            linarith
        | false =>
            obtain ⟨alsoKept, -⟩ := rounds.place_of_not_isFinite largeNumber largeFinite
            rw [kept, alsoKept]
            exact ordered
      · linarith

end Rounds

theorem rounds_add {center : Float} (finite : center.isFinite = true) :
    Rounds (fun double => center + double) (fun number => value center + number) where
  finite _ summand := place_add finite summand
  infinite double sign infinite := by
    change (Float.Model.pack (UnpackedFloat.add Format.binary64 center.toModel.unpack
      double.toModel.unpack)).unpack = _
    rw [infinite]
    obtain ⟨_, form⟩ | ⟨_, _, _, _, form⟩ := finite_cases finite <;> rw [form] <;>
      exact unpack_pack_infinity sign

theorem rounds_mul {scale : Float} (finite : scale.isFinite = true) (positive : 0 < value scale) :
    Rounds (fun double => double * scale) (fun number => number * value scale) where
  finite _ factor := place_mul factor finite
  infinite double sign infinite := by
    change (Float.Model.pack (UnpackedFloat.mul Format.binary64 double.toModel.unpack
      scale.toModel.unpack)).unpack = _
    rw [value] at positive
    rw [infinite]
    obtain ⟨_, form⟩ | ⟨scaleSign, mantissa, exponent, _, form⟩ := finite_cases finite
    · rw [form] at positive
      exact absurd positive (lt_irrefl 0)
    · rw [form, exact_finite] at positive
      rw [form]
      cases scaleSign with
      | positive => cases sign <;> exact unpack_pack_infinity _
      | negative =>
          have magnitude : (0 : ℚ) ≤ mantissa * 2 ^ exponent := by positivity
          exact absurd positive (neg_nonpos.mpr magnitude).not_gt

end TurtleGraphics.Number
