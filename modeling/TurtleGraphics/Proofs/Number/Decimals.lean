import TurtleGraphics.Number.Layout
import TurtleGraphics.Number.Numeral
import TurtleGraphics.Proofs.Number.Value

set_option autoImplicit false

/-!
# Digits of doubles

The decimal that a positive double is written as is never zero, so its digits start with another
digit than zero.
-/

namespace TurtleGraphics.Number

/-! ### Grids -/

/-- Powers of ten against powers of two, by way of `10 ^ 3 ≤ 2 ^ 10` and `2 ^ 23 ≤ 10 ^ 7`. -/
theorem ten_zpow_le_two_zpow {place binary : Int} (low : -1074 ≤ binary) (high : binary ≤ 1024)
    (coarse : place ≤ binary * 30103 / 100000 - 18) : (10 : ℚ) ^ place ≤ 2 ^ binary := by
  -- The two bounds are off by less than 18 places over all exponents of doubles.
  by_cases nonneg : 0 ≤ place
  · obtain ⟨thirds, above⟩ : ∃ thirds : Nat, place ≤ 3 * thirds ∧ 10 * (thirds : Int) ≤ binary :=
      ⟨((place + 2) / 3).toNat, by omega, by omega⟩
    calc (10 : ℚ) ^ place
        ≤ 10 ^ (3 * (thirds : Int)) := zpow_le_zpow_right₀ (by norm_num) above.1
      _ = (10 ^ 3) ^ thirds := by rw [zpow_mul, zpow_natCast]; norm_cast
      _ ≤ (2 ^ 10) ^ thirds := by gcongr; norm_num
      _ = 2 ^ (10 * (thirds : Int)) := by rw [zpow_mul, zpow_natCast]; norm_cast
      _ ≤ 2 ^ binary := zpow_le_zpow_right₀ one_le_two above.2
  · obtain ⟨parts, below⟩ : ∃ parts : Nat, place ≤ -(7 * (parts : Int)) ∧
        -(23 * (parts : Int)) ≤ binary := by
      by_cases small : 0 ≤ binary
      · exact ⟨0, by omega, by omega⟩
      · exact ⟨((-binary + 22) / 23).toNat, by omega, by omega⟩
    calc (10 : ℚ) ^ place
        ≤ 10 ^ (-(7 * (parts : Int))) := zpow_le_zpow_right₀ (by norm_num) below.1
      _ = ((10 ^ 7) ^ parts)⁻¹ := by rw [zpow_neg, zpow_mul, zpow_natCast]; norm_cast
      _ ≤ ((2 ^ 23) ^ parts)⁻¹ := by gcongr; norm_num
      _ = 2 ^ (-(23 * (parts : Int))) := by rw [zpow_neg, zpow_mul, zpow_natCast]; norm_cast
      _ ≤ 2 ^ binary := zpow_le_zpow_right₀ one_le_two below.2

theorem toNat_zpow (base : ℚ) (nonzero : base ≠ 0) (exponent : Int) :
    base ^ exponent.toNat = base ^ (-exponent).toNat * base ^ exponent := by
  rw [← zpow_natCast, ← zpow_natCast, ← zpow_add₀ nonzero]
  congr 1
  omega

namespace RoundingInterval

theorem scale_pos (interval : RoundingInterval) (place : Int) : 0 < interval.scale place :=
  Nat.mul_pos (Nat.pow_pos (by decide)) (Nat.pow_pos (by decide))

theorem unit_pos (interval : RoundingInterval) (place : Int) : 0 < interval.unit place :=
  Nat.mul_pos (Nat.pow_pos (by decide)) (Nat.pow_pos (by decide))

/-- The exact relation between a mark and a multiple of a grid's unit. -/
theorem unit_le_iff (interval : RoundingInterval) (place : Int) (mark : Nat) :
    interval.unit place ≤ mark * interval.scale place ↔
      (10 : ℚ) ^ place ≤ mark * 2 ^ interval.exponent := by
  let common : ℚ := 2 ^ (-interval.exponent).toNat * 10 ^ (-place).toNat
  have positive : 0 < common := by positivity
  have unit_eq : (interval.unit place : ℚ) = common * 10 ^ place := by
    have cast : (interval.unit place : ℚ) =
        2 ^ (-interval.exponent).toNat * 10 ^ place.toNat := by
      exact_mod_cast rfl
    rw [cast, toNat_zpow 10 (by norm_num) place, ← mul_assoc]
  have mark_eq : (mark * interval.scale place : ℚ) =
      common * (mark * 2 ^ interval.exponent) := by
    have cast : (interval.scale place : ℚ) =
        2 ^ interval.exponent.toNat * 10 ^ (-place).toNat := by
      exact_mod_cast rfl
    rw [cast, toNat_zpow 2 (by norm_num) interval.exponent]
    ring
  rw [← mul_le_mul_iff_of_pos_left positive, ← unit_eq, ← mark_eq]
  exact_mod_cast Iff.rfl

theorem hit?_pos {interval : RoundingInterval} (low : 0 < interval.low) {tie : Tie} {place : Int}
    {multiple : Nat} (hit : interval.hit? tie place = some multiple) : 0 < multiple := by
  have contained := hit?_contains hit
  have positive : 0 < interval.low * interval.scale place :=
    Nat.mul_pos low (interval.scale_pos place)
  refine Nat.pos_of_ne_zero fun zero => ?_
  subst zero
  simp only [contains, Nat.zero_mul] at contained
  split at contained
  · have below := of_decide_eq_true (Bool.and_eq_true_iff.mp contained).1
    exact absurd positive (Nat.not_lt.mpr below)
  · have below := of_decide_eq_true (Bool.and_eq_true_iff.mp contained).1
    exact absurd below (Nat.not_lt_zero _)

theorem search_pos {interval : RoundingInterval} (low : 0 < interval.low) (tie : Tie) {grids : Nat}
    {place : Int} (fine : interval.unit (place - grids) ≤
      interval.value * interval.scale (place - grids)) :
    0 < (interval.search tie grids place).digits := by
  induction grids generalizing place with
  | zero =>
      rw [Int.natCast_zero, Int.sub_zero] at fine
      exact Nat.div_pos fine (interval.unit_pos place)
  | succ grids ih =>
      rw [search]
      split
      next hit => exact hit?_pos low hit
      next =>
        apply ih
        rwa [show place - 1 - (grids : Int) = place - ((grids + 1 : Nat) : Int) by omega]

end RoundingInterval

/-- The digits of a positive double do not denote zero. -/
theorem shortest_pos (tie : Tie) {sign : Float.Model.UnpackedFloat.Sign} {mantissa : Nat}
    {exponent : Int} {positive : 0 < mantissa}
    (double : IsDouble (.finite sign mantissa exponent positive)) :
    0 < (shortest tie mantissa exponent).digits := by
  obtain ⟨short, low, high, -⟩ := double
  apply RoundingInterval.search_pos
  · simp only [RoundingInterval.around]
    split <;> omega
  · rw [RoundingInterval.unit_le_iff]
    have digits : mantissa.log2 < 53 := (Nat.log2_lt positive.ne').mpr short
    have marks : ((4 * mantissa : Nat) : ℚ) * 2 ^ (exponent - 2) = mantissa * 2 ^ exponent := by
      rw [zpow_sub₀ two_ne_zero]
      push_cast
      ring
    change (10 : ℚ) ^ (coarsestPlace mantissa exponent - (20 : Nat)) ≤
      ((4 * mantissa : Nat) : ℚ) * 2 ^ (exponent - 2)
    calc (10 : ℚ) ^ (coarsestPlace mantissa exponent - (20 : Nat))
        ≤ 2 ^ (mantissa.log2 + exponent) :=
          ten_zpow_le_two_zpow (by omega) (by omega) (by unfold coarsestPlace; omega)
      _ = 2 ^ mantissa.log2 * 2 ^ exponent := by rw [zpow_add₀ two_ne_zero, zpow_natCast]
      _ ≤ mantissa * 2 ^ exponent := by
          gcongr
          exact_mod_cast Nat.log2_self_le positive.ne'
      _ = ((4 * mantissa : Nat) : ℚ) * 2 ^ (exponent - 2) := marks.symm

/-! ### Digits -/

theorem digitChars_ne_nil (n : Nat) : digitChars n ≠ [] :=
  Nat.toDigits_ne_nil

theorem isDigit_of_mem_digitChars {n : Nat} {c : Char} (member : c ∈ digitChars n) :
    c.isDigit = true :=
  Nat.isDigit_of_mem_toDigits (by decide) (by decide) member

theorem ofDigits_digitChars (n : Nat) : ofDigits (digitChars n) = n :=
  Nat.ofDigitChars_ten_toDigits

theorem head?_digitChars_ne_zero {n : Nat} (positive : 0 < n) :
    (digitChars n).head? ≠ some '0' := by
  induction n using Nat.strongRecOn with
  | ind n ih =>
      rw [digitChars, Nat.toDigits_eq_if (by decide)]
      split
      · interval_cases n <;> decide
      · have shorter := ih (n / 10) (by omega) (by omega)
        rwa [List.head?_append_of_ne_nil _ Nat.toDigits_ne_nil]

end TurtleGraphics.Number
