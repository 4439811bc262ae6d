import TurtleGraphics.Proofs.Number.Places

set_option autoImplicit false

/-!
# Overflow

Rounding changes a number by at most half a unit, so only numbers that are at most half a unit
below the limit overflow. The sum of a small double and any other one is farther below.
-/

namespace TurtleGraphics.Number

open Float.Model Float.Model.UnpackedFloat

/-- The least number that is rounded out of the range of doubles. -/
def overflow : ℚ :=
  limit - 2 ^ (970 : Int)

/-- The gap below the limit is half of the last digit there. -/
theorem limit_sub_overflow : limit - overflow = 2 ^ (971 : Int) / 2 := by
  have doubled : (2 : ℚ) ^ (971 : Int) = 2 ^ (970 : Int) * 2 := zpow_add_one₀ two_ne_zero 970
  rw [overflow, doubled]
  ring

theorem two_zpow_le_overflow : 2 ^ (970 : Int) ≤ overflow := by
  have doubled : (2 : ℚ) ^ (971 : Int) = 2 ^ (970 : Int) * 2 := zpow_add_one₀ two_ne_zero 970
  have inside : (2 : ℚ) ^ (971 : Int) ≤ limit := zpow_le_zpow_right₀ one_le_two (by decide)
  rw [doubled] at inside
  rw [overflow]
  linarith

theorem unitExponent_le_of_lt_limit {magnitude : ℚ} (positive : 0 < magnitude)
    (below : magnitude < limit) : unitExponent magnitude ≤ 971 := by
  have digits : Int.log 2 magnitude < 1024 := by
    rw [← Int.lt_zpow_iff_log_lt one_lt_two positive]
    exact below
  rw [unitExponent]
  omega

theorem nearestMagnitude_lt_limit {magnitude : ℚ} (notNegative : 0 ≤ magnitude)
    (below : magnitude < overflow) : nearestMagnitude magnitude < limit := by
  rcases notNegative.eq_or_lt with rfl | positive
  · rw [nearestMagnitude_zero]
    exact limit_pos
  have inside : magnitude < limit := below.trans (sub_lt_self limit (two_zpow_pos 970))
  have unit : (2 : ℚ) ^ unitExponent magnitude ≤ 2 ^ (971 : Int) :=
    zpow_le_zpow_right₀ one_le_two (unitExponent_le_of_lt_limit positive inside)
  have near := (abs_le.mp (abs_nearestMagnitude_sub_le notNegative)).2
  have gap := limit_sub_overflow
  linarith

theorem isFinite_pack_roundWithAccuracy (sign : Sign) {mantissa : Nat} {exponent : Int}
    (positive : 0 < mantissa)
    (long : exponent ≤ Format.binary64.targetExponent (totalExponent mantissa exponent))
    (below : (mantissa : ℚ) * 2 ^ exponent < overflow) :
    (Float.ofModel (Float.Model.pack
      (roundWithAccuracy Format.binary64 sign mantissa exponent .exact))).isFinite = true := by
  obtain ⟨number, placed⟩ := standing_pack_roundWithAccuracy sign positive long
  have inside := nearestMagnitude_lt_limit (by positivity) below
  have notNegative := nearestMagnitude_nonneg (mantissa * 2 ^ exponent)
  have placeInside : |place (.ofModel (Float.Model.pack
      (roundWithAccuracy Format.binary64 sign mantissa exponent .exact)))| < limit := by
    rw [place, placed, min_eq_right inside.le]
    cases sign <;> simpa [signed, abs_of_nonneg notNegative] using inside
  exact isFinite_of_abs_place_lt number placeInside

theorem abs_confined_nearest_lt {number : ℚ} (below : |number| < overflow) :
    |confined (nearest number)| < limit := by
  have signs : ∃ sign, number = signed sign |number| := by
    rcases abs_cases number with ⟨same, -⟩ | ⟨opposite, -⟩
    · exact ⟨.positive, same.symm⟩
    · exact ⟨.negative, by rw [opposite, signed, InvolutiveNeg.neg_neg]⟩
  obtain ⟨sign, same⟩ := signs
  have inside := nearestMagnitude_lt_limit (abs_nonneg number) below
  have notNegative := nearestMagnitude_nonneg |number|
  rw [same, nearest_signed sign (abs_nonneg number), confined_signed sign notNegative,
    min_eq_right inside.le]
  cases sign <;> simpa [signed, abs_of_nonneg notNegative] using inside

theorem isFinite_add {left right : Float} (leftFinite : left.isFinite = true)
    (rightFinite : right.isFinite = true) (small : |value left| < 2 ^ (970 : Int)) :
    (left + right).isFinite = true := by
  have large := abs_value_le right
  have gap := limit_sub_overflow
  obtain ⟨number, placed⟩ := place_add leftFinite rightFinite
  apply isFinite_of_abs_place_lt number
  rw [placed]
  apply abs_confined_nearest_lt
  calc |value left + value right| ≤ |value left| + |value right| := abs_add_le _ _
    _ < (limit - overflow) + (limit - 2 ^ (971 : Int)) := by
        rw [overflow, sub_sub_cancel]
        exact add_lt_add_of_lt_of_le small large
    _ = overflow := by linarith

end TurtleGraphics.Number
