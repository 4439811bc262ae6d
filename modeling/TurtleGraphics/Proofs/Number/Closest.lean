import TurtleGraphics.Proofs.Number.Places

set_option autoImplicit false

/-!
# The closest double

Rounding keeps as many digits as a mantissa has. Seen from outside, by distances alone, it picks
the double that is closest to the number, and the one with the even mantissa of two that are
equally close. No other number has this property.
-/

namespace TurtleGraphics.Number

open Float.Model Float.Model.UnpackedFloat

/-- The mantissa of a finite double ends in a zero. -/
def IsEven (double : Float) : Prop :=
  match double.toModel.unpack with
  | .finite _ mantissa _ _ => Even mantissa
  | .infinity _ => True
  | .notANumber => True
  | .zero _ => True

/-- A finite double that no other one is closer than to a number. If another one is equally close,
its mantissa is even. -/
structure IsClosest (double : Float) (number : ℚ) : Prop where
  finite : double.isFinite = true
  least : ∀ other : Float, other.isFinite = true →
    |value double - number| ≤ |value other - number|
  even : ∀ other : Float, other.isFinite = true → value other ≠ value double →
    |value other - number| = |value double - number| → IsEven double

theorem isClosest_value_iff {double rounded : Float} (finite : rounded.isFinite = true) :
    IsClosest double (value rounded) ↔ StandsFor double (value rounded) := by
  constructor
  · intro closest
    have least := closest.least rounded finite
    rw [sub_self, abs_zero, abs_nonpos_iff, sub_eq_zero] at least
    exact ⟨closest.finite, least⟩
  · rintro ⟨doubleFinite, same⟩
    have none : |value double - value rounded| = 0 := by rw [same, sub_self, abs_zero]
    refine ⟨doubleFinite, fun other _ => none.trans_le (abs_nonneg _), fun other _ apart tied => ?_⟩
    rw [none, abs_eq_zero, sub_eq_zero, ← same] at tied
    exact absurd tied apart

/-! ### The closest whole number -/

section WholeNumbers

variable {number : ℚ} {whole other : ℕ}

theorem even_nearestWhole (notNegative : 0 ≤ number)
    (half : |(nearestWhole number : ℚ) - number| = 1 / 2) : Even (nearestWhole number) := by
  have above := Nat.floor_le notNegative
  have below := Nat.lt_floor_add_one number
  rw [nearestWhole] at half ⊢
  generalize ⌊number⌋₊ = whole at above below half ⊢
  split at half
  next less =>
    rw [abs_of_nonpos (by linarith)] at half
    linarith
  next notLess =>
    split at half
    next middle =>
      rw [if_neg notLess, if_pos middle, Nat.even_iff]
      omega
    next notMiddle =>
      have more := lt_of_le_of_ne (not_lt.mp notLess) (Ne.symm notMiddle)
      push_cast at half
      rw [abs_of_nonneg (by linarith)] at half
      linarith

theorem one_le_abs_sub (number : ℚ) (different : other ≠ whole) :
    1 ≤ |(other : ℚ) - number| + |(whole : ℚ) - number| := by
  have apart : (other : ℤ) - whole ≠ 0 := by omega
  calc (1 : ℚ) ≤ |(other : ℚ) - whole| := by exact_mod_cast Int.one_le_abs apart
    _ ≤ |(other : ℚ) - number| + |number - whole| := abs_sub_le _ _ _
    _ = |(other : ℚ) - number| + |(whole : ℚ) - number| := by rw [abs_sub_comm number]

theorem odd_of_halves (even : Even whole) (different : other ≠ whole)
    (half : |(whole : ℚ) - number| = 1 / 2) (otherHalf : |(other : ℚ) - number| = 1 / 2) :
    Odd other := by
  have neighbours : (other : ℤ) - whole = 1 ∨ (other : ℤ) - whole = -1 := by
    have near : |(other : ℚ) - whole| ≤ 1 := by
      calc |(other : ℚ) - whole| ≤ |(other : ℚ) - number| + |number - whole| := abs_sub_le _ _ _
        _ = 1 := by
          rw [abs_sub_comm number, half, otherHalf]
          norm_num
    have bounded : |(other : ℤ) - whole| ≤ 1 := by exact_mod_cast near
    rw [abs_le] at bounded
    omega
  rw [Nat.even_iff] at even
  rw [Nat.odd_iff]
  omega

/-- Every other whole number is farther away, unless the number lies half way between the two. -/
theorem nearestWhole_or_farther (notNegative : 0 ≤ number) (other : ℕ) :
    other = nearestWhole number ∨
      |(nearestWhole number : ℚ) - number| < |(other : ℚ) - number| ∨
      |(nearestWhole number : ℚ) - number| = 1 / 2 ∧ |(other : ℚ) - number| = 1 / 2 ∧
        Even (nearestWhole number) ∧ Odd other := by
  have near := abs_nearestWhole_sub_le notNegative
  by_cases same : other = nearestWhole number
  · exact .inl same
  · refine .inr ((lt_or_ge _ _).imp_right fun notFarther => ?_)
    have apart := one_le_abs_sub number same
    have half : |(nearestWhole number : ℚ) - number| = 1 / 2 := by linarith
    have otherHalf : |(other : ℚ) - number| = 1 / 2 := by linarith
    have even := even_nearestWhole notNegative half
    exact ⟨half, otherHalf, even, odd_of_halves even same half otherHalf⟩

end WholeNumbers

/-! ### Even mantissas -/

theorem eq_mul_two_pow {mantissa whole : ℕ} {low high : ℤ} (ordered : low ≤ high)
    (same : (mantissa : ℚ) * 2 ^ low = whole * 2 ^ high) :
    mantissa = whole * 2 ^ (high - low).toNat := by
  rw [mul_two_zpow_eq ordered] at same
  exact_mod_cast mul_right_cancel₀ (two_zpow_pos low).ne' same

section Parity

variable {double : Float} {whole : ℕ} {unit : ℤ}

theorem magnitude_of_value {sign : Sign} {mantissa : ℕ} {exponent : ℤ} {positive : 0 < mantissa}
    (unpacked : double.toModel.unpack = .finite sign mantissa exponent positive)
    (valued : value double = whole * 2 ^ unit) :
    (mantissa : ℚ) * 2 ^ exponent = whole * 2 ^ unit := by
  have notNegative : (0 : ℚ) ≤ whole * 2 ^ unit := by positivity
  rw [← abs_of_nonneg notNegative, ← valued, value, unpacked, abs_exact_finite]

/-- Only a mantissa that needs a 54th digit is shortened, and then it is a power of two. -/
theorem isEven_of_even (valued : value double = whole * 2 ^ unit) (low : -1074 ≤ unit)
    (short : whole ≤ 2 ^ 53) (even : Even whole) : IsEven double := by
  have form := isDouble_unpack double.toModel
  rw [IsEven]
  cases unpacked : double.toModel.unpack with
  | notANumber | infinity | zero => trivial
  | finite sign mantissa exponent positive =>
      have same := magnitude_of_value unpacked valued
      rw [unpacked] at form
      obtain ⟨-, -, -, filled⟩ := form
      change Even mantissa
      rcases le_or_gt exponent unit with longer | shorter
      · rw [eq_mul_two_pow longer same]
        exact even.mul_right _
      · have lengthened := eq_mul_two_pow shorter.le same.symm
        have doubled : 2 ≤ 2 ^ (exponent - unit).toNat := Nat.le_self_pow (by omega) 2
        have least : mantissa * 2 ≤ whole := by
          rw [lengthened]
          exact Nat.mul_le_mul_left mantissa doubled
        have power : mantissa = 2 ^ 52 := by omega
        rw [power]
        decide

theorem not_isEven_of_odd (valued : value double = whole * 2 ^ unit)
    (filled : 2 ^ 52 ≤ whole ∨ unit = -1074) (odd : Odd whole) : ¬ IsEven double := by
  have form := isDouble_unpack double.toModel
  rw [IsEven]
  cases unpacked : double.toModel.unpack with
  | notANumber | infinity | zero =>
      have positive : (0 : ℚ) < whole * 2 ^ unit := by
        have counted : (0 : ℚ) < whole := by exact_mod_cast odd.pos
        positivity
      rw [← valued, value, unpacked, exact] at positive
      exact absurd positive (lt_irrefl 0)
  | finite sign mantissa exponent positive =>
      have same := magnitude_of_value unpacked valued
      rw [unpacked] at form
      obtain ⟨short, least, -, -⟩ := form
      change ¬ Even mantissa
      rcases le_or_gt unit exponent with longer | shorter
      · rw [eq_mul_two_pow longer same.symm, Nat.odd_mul] at odd
        exact Nat.not_even_iff_odd.mpr odd.1
      · have lengthened := eq_mul_two_pow shorter.le same
        have doubled : 2 ≤ 2 ^ (unit - exponent).toNat := Nat.le_self_pow (by omega) 2
        have least : whole * 2 ≤ mantissa := by
          rw [lengthened]
          exact Nat.mul_le_mul_left whole doubled
        omega

end Parity

/-! ### Distances -/

section Distances

variable {magnitude : ℚ} {double : Float} {whole : ℕ}

/-- What is not more than half a unit away has no more digits than a mantissa, and no fewer if it
can. -/
theorem digits_of_half (positive : 0 < magnitude)
    (near : |(whole : ℚ) - magnitude / 2 ^ unitExponent magnitude| ≤ 1 / 2) :
    whole ≤ 2 ^ 53 ∧ (2 ^ 52 ≤ whole ∨ unitExponent magnitude = -1074) := by
  have unit := two_zpow_pos (unitExponent magnitude)
  have short : magnitude / 2 ^ unitExponent magnitude < 2 ^ 53 := by
    rw [div_lt_iff₀ unit]
    exact lt_two_zpow_unitExponent magnitude
  obtain ⟨above, below⟩ := abs_le.mp near
  constructor
  · have close : (whole : ℚ) < (2 ^ 53 : ℕ) + 1 := by
      push_cast
      linarith
    exact Nat.lt_add_one_iff.mp (by exact_mod_cast close)
  · by_cases least : unitExponent magnitude = -1074
    · exact .inr least
    · have filled : 2 ^ 52 ≤ magnitude / 2 ^ unitExponent magnitude := by
        rw [le_div_iff₀ unit]
        exact two_zpow_unitExponent_le positive least
      have close : ((2 ^ 52 : ℕ) : ℚ) < whole + 1 := by
        push_cast
        linarith
      exact .inl (Nat.lt_add_one_iff.mp (by exact_mod_cast close))

/-- A double that is not a multiple of the unit of a magnitude has a smaller unit of its own, so it
is smaller than a multiple that is not above the magnitude. -/
theorem onGrid_or_below (positive : 0 < magnitude) (finite : double.isFinite = true) :
    (∃ whole : ℕ, value double = whole * 2 ^ unitExponent magnitude) ∨
      ∃ whole : ℕ, whole * 2 ^ unitExponent magnitude ≤ magnitude ∧
        value double < whole * 2 ^ unitExponent magnitude := by
  have form := isDouble_unpack double.toModel
  rw [value]
  obtain ⟨sign, zero⟩ | ⟨sign, mantissa, exponent, filled, unpacked⟩ := finite_cases finite
  · refine .inl ⟨0, ?_⟩
    rw [zero, exact, Nat.cast_zero, zero_mul]
  · rw [unpacked] at form ⊢
    obtain ⟨short, least, -, -⟩ := form
    rw [exact_finite]
    cases sign with
    | negative =>
        have size : (0 : ℚ) < mantissa * 2 ^ exponent := by positivity
        refine .inr ⟨0, ?_⟩
        rw [Nat.cast_zero, zero_mul]
        exact ⟨positive.le, neg_lt_zero.mpr size⟩
    | positive =>
        rcases le_or_gt (unitExponent magnitude) exponent with longer | shorter
        · exact .inl ⟨_, mul_two_zpow_eq longer mantissa⟩
        · refine .inr ⟨2 ^ 52, ?_, ?_⟩
          · exact_mod_cast two_zpow_unitExponent_le positive (by omega)
          · exact mul_two_zpow_lt short le_rfl shorter

theorem abs_nearestMagnitude_sub_le_unit (notNegative : 0 ≤ magnitude) (whole : ℕ) :
    |nearestMagnitude magnitude - magnitude| ≤
      |whole * 2 ^ unitExponent magnitude - magnitude| := by
  have unit := two_zpow_pos (unitExponent magnitude)
  rw [nearestMagnitude, abs_unit_sub, abs_unit_sub]
  apply mul_le_mul_of_nonneg_right _ unit.le
  rcases nearestWhole_or_farther (div_nonneg notNegative unit.le) whole with
    rfl | farther | ⟨half, otherHalf, -⟩
  · exact le_rfl
  · exact farther.le
  · rw [half, otherHalf]

/-- Every other double is farther away, unless it is equally far and one of the two mantissas is
even. -/
theorem nearestMagnitude_or_farther {rounded : Float} (positive : 0 < magnitude)
    (stands : StandsFor rounded (nearestMagnitude magnitude)) (finite : double.isFinite = true) :
    value double = value rounded ∨
      |value rounded - magnitude| < |value double - magnitude| ∨
      IsEven rounded ∧ ¬ IsEven double ∧
        |value rounded - magnitude| = |value double - magnitude| := by
  obtain ⟨-, valued⟩ := stands
  have unit := two_zpow_pos (unitExponent magnitude)
  have scaled : 0 ≤ magnitude / 2 ^ unitExponent magnitude := div_nonneg positive.le unit.le
  have low : -1074 ≤ unitExponent magnitude := le_max_right _ _
  -- Doubles on the grid of the magnitude compare as whole numbers do. All others lie behind a point
  -- of the grid.
  obtain ⟨whole, onGrid⟩ | ⟨whole, reached, below⟩ := onGrid_or_below positive finite
  · rw [onGrid]
    have placed : value rounded = nearestWhole (magnitude / 2 ^ unitExponent magnitude) *
        2 ^ unitExponent magnitude := valued
    rw [placed, abs_unit_sub, abs_unit_sub]
    rcases nearestWhole_or_farther scaled whole with same | farther | ⟨half, otherHalf, even, odd⟩
    · rw [same]
      exact .inl rfl
    · exact .inr (.inl (mul_lt_mul_of_pos_right farther unit))
    · have digits := digits_of_half positive half.le
      have otherDigits := digits_of_half positive otherHalf.le
      rw [half, otherHalf]
      exact .inr (.inr ⟨isEven_of_even placed low digits.1 even,
        not_isEven_of_odd onGrid otherDigits.2 odd, rfl⟩)
  · refine .inr (.inl ?_)
    rw [valued]
    calc |nearestMagnitude magnitude - magnitude|
        ≤ |whole * 2 ^ unitExponent magnitude - magnitude| :=
          abs_nearestMagnitude_sub_le_unit positive.le whole
      _ = magnitude - whole * 2 ^ unitExponent magnitude := by
          rw [abs_of_nonpos (sub_nonpos.mpr reached), neg_sub]
      _ < magnitude - value double := sub_lt_sub_left below magnitude
      _ = |value double - magnitude| := by
          rw [abs_of_neg (sub_neg.mpr (below.trans_le reached)), neg_sub]

end Distances

/-! ### Rounding -/

/-- There is one closest number, and it is what rounding gives. -/
theorem isClosest_iff {double rounded : Float} {magnitude : ℚ} (notNegative : 0 ≤ magnitude)
    (stands : StandsFor rounded (nearestMagnitude magnitude)) :
    IsClosest double magnitude ↔ StandsFor double (nearestMagnitude magnitude) := by
  rcases notNegative.eq_or_lt with rfl | positive
  · -- Zero has no digits and no grid.
    rw [nearestMagnitude_zero] at stands ⊢
    have same : IsClosest double (value rounded) ↔ StandsFor double (value rounded) :=
      isClosest_value_iff stands.1
    rwa [stands.2] at same
  · constructor
    · intro closest
      refine ⟨closest.finite, ?_⟩
      rw [← stands.2]
      rcases nearestMagnitude_or_farther positive stands closest.finite with
        same | farther | ⟨-, notEven, tied⟩
      · exact same
      · exact absurd (closest.least rounded stands.1) (not_le.mpr farther)
      · by_contra different
        exact notEven (closest.even rounded stands.1 (Ne.symm different) tied)
    · intro doubleStands
      refine ⟨doubleStands.1, fun other finite => ?_, fun other finite different tied => ?_⟩
      · rcases nearestMagnitude_or_farther positive doubleStands finite with
          same | farther | ⟨-, -, tied⟩
        · rw [same]
        · exact farther.le
        · exact tied.le
      · rcases nearestMagnitude_or_farther positive doubleStands finite with
          same | farther | ⟨even, -, -⟩
        · exact absurd same different
        · exact absurd tied farther.ne'
        · exact even

theorem confined_of_abs_lt {number : ℚ} (inside : |confined number| < limit) :
    confined number = number := by
  have positive := limit_pos
  obtain ⟨above, below⟩ := abs_lt.mp inside
  rw [confined, lt_max_iff] at above
  rw [confined, max_lt_iff, min_lt_iff] at below
  have short : number < limit := below.2.resolve_left (lt_irrefl limit)
  have long : -limit < number := (lt_min_iff.mp (above.resolve_left (lt_irrefl _))).2
  rw [confined, min_eq_right short.le, max_eq_right long.le]

theorem standsFor_add {left right : Float} (leftFinite : left.isFinite = true)
    (rightFinite : right.isFinite = true) (finite : (left + right).isFinite = true)
    (notNegative : 0 ≤ value left + value right) :
    StandsFor (left + right) (nearestMagnitude (value left + value right)) := by
  obtain ⟨-, placed⟩ := place_add leftFinite rightFinite
  have inside := abs_value_lt_limit (left + right)
  rw [place_of_isFinite finite] at placed
  rw [placed] at inside
  rw [confined_of_abs_lt inside, nearest_of_nonneg notNegative] at placed
  exact ⟨finite, placed⟩

end TurtleGraphics.Number
