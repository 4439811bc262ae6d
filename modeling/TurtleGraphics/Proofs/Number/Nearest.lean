import TurtleGraphics.Proofs.Number.Rounding

set_option autoImplicit false

/-!
# The nearest double

Rounding takes a number to the nearest one that has a mantissa of 53 bits and an exponent that is
not too small, and of two that are equally near to the one with an even mantissa. What comes to lie
at the first power of two that no double reaches, or beyond it, is infinite.
-/

namespace TurtleGraphics.Number

open Float.Model Float.Model.UnpackedFloat

/-! ### The nearest whole number -/

/-- The whole number nearest to a number that is not negative, and the even one of two. -/
def nearestWhole (number : ℚ) : ℕ :=
  let whole := ⌊number⌋₊
  if number < whole + 1 / 2 then whole
  else if number = whole + 1 / 2 then whole + whole % 2
  else whole + 1

theorem abs_nearestWhole_sub_le {number : ℚ} (notNegative : 0 ≤ number) :
    |(nearestWhole number : ℚ) - number| ≤ 1 / 2 := by
  have above := Nat.floor_le notNegative
  have below := Nat.lt_floor_add_one number
  rw [nearestWhole, abs_le]
  generalize ⌊number⌋₊ = whole at above below ⊢
  split
  next => constructor <;> linarith
  next =>
    split
    next half =>
      rcases Nat.mod_two_eq_zero_or_one whole with last | last <;> rw [last] <;> push_cast <;>
        constructor <;> linarith
    next =>
      push_cast
      constructor <;> linarith

theorem nearestWhole_natCast (whole : ℕ) : nearestWhole whole = whole := by
  rw [nearestWhole, Nat.floor_natCast, if_pos]
  linarith

/-- Two numbers that are rounded in the wrong order would both have to lie half way between two
whole numbers, and then they would be the same. -/
theorem nearestWhole_mono {small large : ℚ} (notNegative : 0 ≤ small) (ordered : small ≤ large) :
    nearestWhole small ≤ nearestWhole large := by
  have smallNear := (abs_le.mp (abs_nearestWhole_sub_le notNegative)).2
  have largeNear := (abs_le.mp (abs_nearestWhole_sub_le (notNegative.trans ordered))).1
  by_contra! reversed
  have apart : (nearestWhole large : ℚ) + 1 ≤ nearestWhole small := by exact_mod_cast reversed
  have same : small = large := by linarith
  rw [same] at reversed
  exact lt_irrefl _ reversed

/-- What is kept of a number that is shifted to the right: its whole part, and how its fraction
compares with one half. -/
inductive Keeps : ExtendedMantissa → ℚ → Prop where
  | exact {whole : Nat} {number : ℚ} :
      number = whole → Keeps ⟨whole, false, false⟩ number
  | less {whole : Nat} {number : ℚ} :
      whole < number → number < whole + 1 / 2 → Keeps ⟨whole, false, true⟩ number
  | half {whole : Nat} {number : ℚ} :
      number = whole + 1 / 2 → Keeps ⟨whole, true, false⟩ number
  | more {whole : Nat} {number : ℚ} :
      whole + 1 / 2 < number → number < whole + 1 → Keeps ⟨whole, true, true⟩ number

namespace Keeps

theorem shiftRightOne_even (half : Nat) (roundBit stickyBit : Bool) :
    (ExtendedMantissa.mk (2 * half) roundBit stickyBit).shiftRightOne =
      ⟨half, false, roundBit || stickyBit⟩ := by
  simp [ExtendedMantissa.shiftRightOne]

theorem shiftRightOne_odd (half : Nat) (roundBit stickyBit : Bool) :
    (ExtendedMantissa.mk (2 * half + 1) roundBit stickyBit).shiftRightOne =
      ⟨half, true, roundBit || stickyBit⟩ := by
  have whole : (2 * half + 1) / 2 = half := by omega
  simp [ExtendedMantissa.shiftRightOne, Nat.add_mod, whole]

variable {extended : ExtendedMantissa} {number : ℚ}

theorem shiftRightOne (keeps : Keeps extended number) :
    Keeps extended.shiftRightOne (number / 2) := by
  obtain ⟨whole, roundBit, stickyBit⟩ := extended
  -- The last bit of the whole part becomes the round bit.
  obtain ⟨half, rfl | rfl⟩ := Nat.even_or_odd' whole
  · rw [shiftRightOne_even]
    cases keeps with
    | exact same =>
        push_cast at same
        exact .exact (by linarith)
    | less above below =>
        push_cast at above below
        exact .less (by linarith) (by linarith)
    | half same =>
        push_cast at same
        exact .less (by linarith) (by linarith)
    | more above below =>
        push_cast at above below
        exact .less (by linarith) (by linarith)
  · rw [shiftRightOne_odd]
    cases keeps with
    | exact same =>
        push_cast at same
        exact .half (by linarith)
    | less above below =>
        push_cast at above below
        exact .more (by linarith) (by linarith)
    | half same =>
        push_cast at same
        exact .more (by linarith) (by linarith)
    | more above below =>
        push_cast at above below
        exact .more (by linarith) (by linarith)

theorem shiftRight (mantissa count : Nat) :
    Keeps (ExtendedMantissa.ofMantissaAndAccuracy mantissa .exact >>> count)
      (mantissa / 2 ^ count) := by
  change Keeps (count.repeat ExtendedMantissa.shiftRightOne _) _
  induction count with
  | zero =>
      rw [pow_zero, div_one]
      exact .exact rfl
  | succ count ih =>
      rw [Nat.repeat, pow_succ, ← div_div]
      exact ih.shiftRightOne

theorem nearestWhole_eq {whole : Nat} (above : whole ≤ number) (below : number < whole + 1) :
    nearestWhole number =
      if number < whole + 1 / 2 then whole
      else if number = whole + 1 / 2 then whole + whole % 2
      else whole + 1 := by
  have notNegative : 0 ≤ number := (Nat.cast_nonneg whole).trans above
  rw [nearestWhole, (Nat.floor_eq_iff notNegative).mpr ⟨above, below⟩]

theorem roundedMantissa_eq (keeps : Keeps extended number) :
    extended.roundedMantissa = nearestWhole number := by
  cases keeps with
  | exact same =>
      rw [same, nearestWhole_natCast]
      rfl
  | less above below =>
      rw [nearestWhole_eq above.le (by linarith), if_pos below]
      rfl
  | half same =>
      rw [nearestWhole_eq (by linarith) (by linarith), if_neg same.not_lt, if_pos same]
      rfl
  | more above below =>
      rw [nearestWhole_eq (by linarith) below, if_neg above.not_gt, if_neg above.ne']
      rfl

end Keeps

/-! ### The last digit -/

/-- The exponent of the last digit that a double has for a number of this magnitude. -/
def unitExponent (magnitude : ℚ) : ℤ :=
  max (Int.log 2 magnitude - 52) (-1074)

theorem log_mul_two_zpow {mantissa : Nat} (positive : 0 < mantissa) (exponent : Int) :
    Int.log 2 ((mantissa : ℚ) * 2 ^ exponent) = mantissa.log2 + exponent := by
  have magnitude : (0 : ℚ) < mantissa * 2 ^ exponent := by positivity
  apply le_antisymm
  · rw [← Int.lt_add_one_iff, ← Int.lt_zpow_iff_log_lt one_lt_two magnitude]
    have filled : (mantissa : ℚ) < 2 ^ ((mantissa.log2 : Int) + 1) := by
      exact_mod_cast Nat.lt_log2_self
    calc (mantissa : ℚ) * 2 ^ exponent < 2 ^ ((mantissa.log2 : Int) + 1) * 2 ^ exponent := by gcongr
      _ = ((2 : ℕ) : ℚ) ^ (mantissa.log2 + exponent + 1) := by
          rw [Nat.cast_ofNat, ← zpow_add₀ two_ne_zero, add_right_comm]
  · rw [← Int.zpow_le_iff_le_log one_lt_two magnitude]
    have filled : (2 : ℚ) ^ (mantissa.log2 : Int) ≤ mantissa := by
      exact_mod_cast Nat.log2_self_le positive.ne'
    calc ((2 : ℕ) : ℚ) ^ (mantissa.log2 + exponent) = 2 ^ (mantissa.log2 : Int) * 2 ^ exponent := by
          rw [Nat.cast_ofNat, zpow_add₀ two_ne_zero]
      _ ≤ mantissa * 2 ^ exponent := by gcongr

theorem targetExponent_eq_unitExponent {mantissa : Nat} (positive : 0 < mantissa)
    (exponent : Int) :
    Format.binary64.targetExponent (totalExponent mantissa exponent) =
      unitExponent (mantissa * 2 ^ exponent) := by
  rw [targetExponent_eq, totalExponent, unitExponent, log_mul_two_zpow positive]
  congr 1
  omega

section Unit

variable {magnitude : ℚ}

theorem lt_two_zpow_unitExponent (magnitude : ℚ) :
    magnitude < 2 ^ 53 * 2 ^ unitExponent magnitude := by
  have digits : Int.log 2 magnitude + 1 ≤ 53 + unitExponent magnitude := by
    rw [unitExponent]
    omega
  calc magnitude < (2 : ℚ) ^ (Int.log 2 magnitude + 1) := by
        exact_mod_cast Int.lt_zpow_succ_log_self one_lt_two magnitude
    _ ≤ (2 : ℚ) ^ (53 + unitExponent magnitude) := zpow_le_zpow_right₀ one_le_two digits
    _ = 2 ^ 53 * 2 ^ unitExponent magnitude := by
        rw [zpow_add₀ two_ne_zero]
        rfl

theorem two_zpow_unitExponent_le (positive : 0 < magnitude)
    (normal : unitExponent magnitude ≠ -1074) :
    2 ^ 52 * 2 ^ unitExponent magnitude ≤ magnitude := by
  have digits : 52 + unitExponent magnitude = Int.log 2 magnitude := by
    rw [unitExponent] at normal ⊢
    omega
  calc (2 : ℚ) ^ 52 * 2 ^ unitExponent magnitude = 2 ^ (52 + unitExponent magnitude) := by
        rw [zpow_add₀ two_ne_zero]
        rfl
    _ = (2 : ℚ) ^ Int.log 2 magnitude := by rw [digits]
    _ ≤ magnitude := by exact_mod_cast Int.zpow_log_le_self one_lt_two positive

theorem unitExponent_mono {small large : ℚ} (positive : 0 < small) (ordered : small ≤ large) :
    unitExponent small ≤ unitExponent large :=
  max_le_max_right _ (Int.sub_le_sub_right (Int.log_mono_right positive ordered) 52)

end Unit

/-! ### The nearest magnitude -/

/-- What a magnitude is rounded to, if there is no limit to exponents. -/
def nearestMagnitude (magnitude : ℚ) : ℚ :=
  nearestWhole (magnitude / 2 ^ unitExponent magnitude) * 2 ^ unitExponent magnitude

theorem two_zpow_pos (exponent : Int) : (0 : ℚ) < 2 ^ exponent := by positivity

theorem nearestMagnitude_nonneg (magnitude : ℚ) : 0 ≤ nearestMagnitude magnitude := by
  rw [nearestMagnitude]
  positivity

theorem abs_unit_sub (magnitude : ℚ) (whole : ℕ) :
    |whole * 2 ^ unitExponent magnitude - magnitude| =
      |whole - magnitude / 2 ^ unitExponent magnitude| * 2 ^ unitExponent magnitude := by
  have unit := two_zpow_pos (unitExponent magnitude)
  rw [← abs_of_pos unit, ← abs_mul, abs_of_pos unit, sub_mul, div_mul_cancel₀ _ unit.ne']

/-- Half a unit is the most that rounding changes. -/
theorem abs_nearestMagnitude_sub_le {magnitude : ℚ} (notNegative : 0 ≤ magnitude) :
    |nearestMagnitude magnitude - magnitude| ≤ 2 ^ unitExponent magnitude / 2 := by
  have unit := two_zpow_pos (unitExponent magnitude)
  have near := abs_nearestWhole_sub_le (div_nonneg notNegative unit.le)
  rw [nearestMagnitude, abs_unit_sub]
  linarith [mul_le_mul_of_nonneg_right near unit.le]

theorem nearestWhole_unit_le {magnitude : ℚ} (notNegative : 0 ≤ magnitude) :
    nearestWhole (magnitude / 2 ^ unitExponent magnitude) ≤ 2 ^ 53 := by
  have unit := two_zpow_pos (unitExponent magnitude)
  have short : magnitude / 2 ^ unitExponent magnitude ≤ (2 ^ 53 : Nat) := by
    rw [div_le_iff₀ unit]
    exact_mod_cast (lt_two_zpow_unitExponent magnitude).le
  have rounded := nearestWhole_mono (div_nonneg notNegative unit.le) short
  rwa [nearestWhole_natCast] at rounded

theorem le_nearestWhole_unit {magnitude : ℚ} (positive : 0 < magnitude)
    (normal : unitExponent magnitude ≠ -1074) :
    2 ^ 52 ≤ nearestWhole (magnitude / 2 ^ unitExponent magnitude) := by
  have unit := two_zpow_pos (unitExponent magnitude)
  have filled : ((2 ^ 52 : Nat) : ℚ) ≤ magnitude / 2 ^ unitExponent magnitude := by
    rw [le_div_iff₀ unit]
    exact_mod_cast two_zpow_unitExponent_le positive normal
  have rounded := nearestWhole_mono (Nat.cast_nonneg _) filled
  rwa [nearestWhole_natCast] at rounded

/-- Numbers with the same unit are rounded on one grid. Otherwise a power of two that both grids
have stands between them. -/
theorem nearestMagnitude_mono {small large : ℚ} (notNegative : 0 ≤ small)
    (ordered : small ≤ large) : nearestMagnitude small ≤ nearestMagnitude large := by
  rcases notNegative.eq_or_lt with rfl | positive
  · rw [nearestMagnitude, zero_div, ← Nat.cast_zero, nearestWhole_natCast, Nat.cast_zero, zero_mul]
    exact nearestMagnitude_nonneg large
  rcases (unitExponent_mono positive ordered).eq_or_lt with same | smaller
  · have unit := two_zpow_pos (unitExponent large)
    rw [nearestMagnitude, nearestMagnitude, same]
    gcongr
    apply nearestWhole_mono (div_nonneg notNegative unit.le)
    gcongr
  · have normal : unitExponent large ≠ -1074 := by
      have least : -1074 ≤ unitExponent small := le_max_right _ _
      omega
    have short : (nearestWhole (small / 2 ^ unitExponent small) : ℚ) ≤ 2 ^ 53 := by
      exact_mod_cast nearestWhole_unit_le notNegative
    have filled : (2 : ℚ) ^ 52 ≤ nearestWhole (large / 2 ^ unitExponent large) := by
      exact_mod_cast le_nearestWhole_unit (positive.trans_le ordered) normal
    calc nearestMagnitude small ≤ 2 ^ 53 * 2 ^ unitExponent small := by
          rw [nearestMagnitude]
          gcongr
      _ = 2 ^ 52 * 2 ^ (unitExponent small + 1) := by
          rw [zpow_add_one₀ two_ne_zero]
          ring
      _ ≤ 2 ^ 52 * 2 ^ unitExponent large := by
          gcongr
          · exact one_le_two
          · exact smaller
      _ ≤ nearestMagnitude large := by
          rw [nearestMagnitude]
          gcongr

theorem mul_two_zpow_eq {low high : ℤ} (ordered : low ≤ high) (whole : ℕ) :
    (whole : ℚ) * 2 ^ high = (whole * 2 ^ (high - low).toNat : ℕ) * 2 ^ low := by
  have split : high = ((high - low).toNat : ℤ) + low := by omega
  conv_lhs => rw [split, zpow_add₀ two_ne_zero, zpow_natCast]
  push_cast
  ring

/-- What fits in 53 bits is not changed. -/
theorem nearestMagnitude_of_short {mantissa : Nat} {exponent : Int} (short : mantissa < 2 ^ 53)
    (low : -1074 ≤ exponent) :
    nearestMagnitude (mantissa * 2 ^ exponent) = mantissa * 2 ^ exponent := by
  rcases Nat.eq_zero_or_pos mantissa with rfl | positive
  · rw [Nat.cast_zero, zero_mul, nearestMagnitude, zero_div, ← Nat.cast_zero,
      nearestWhole_natCast, Nat.cast_zero, zero_mul]
  have digits : mantissa.log2 < 53 := (Nat.log2_lt positive.ne').mpr short
  have fits : unitExponent (mantissa * 2 ^ exponent) ≤ exponent := by
    rw [unitExponent, log_mul_two_zpow positive]
    omega
  rw [nearestMagnitude]
  generalize unitExponent (mantissa * 2 ^ exponent) = unit at fits ⊢
  rw [mul_two_zpow_eq fits, mul_div_cancel_right₀ _ (two_zpow_pos unit).ne', nearestWhole_natCast]

/-! ### Rounding -/

/-- The first power of two that no double reaches. -/
def limit : ℚ :=
  2 ^ (1024 : Int)

theorem limit_eq : limit = 2 ^ 53 * 2 ^ (971 : Int) := by
  rw [limit, ← zpow_natCast, ← zpow_add₀ two_ne_zero]
  rfl

/-- Before a number is rounded it is given at least as many digits as a mantissa has. -/
theorem round_eq_roundWithAccuracy (sign : Sign) {mantissa : Nat} (exponent : Int)
    (positive : 0 < mantissa) :
    ∃ (longer : Nat) (least : Int),
      UnpackedFloat.round Format.binary64 sign mantissa exponent =
        roundWithAccuracy Format.binary64 sign longer least .exact ∧
      0 < longer ∧ least ≤ Format.binary64.targetExponent (totalExponent longer least) ∧
      (longer : ℚ) * 2 ^ least = mantissa * 2 ^ exponent := by
  let target := Format.binary64.targetExponent (totalExponent mantissa exponent)
  let shift := (exponent - target).toNat
  have digits := log2_shiftLeft positive shift
  have filled : 0 < mantissa <<< shift := by
    rw [Nat.shiftLeft_eq]
    positivity
  have total : totalExponent (mantissa <<< shift) (exponent - shift) =
      totalExponent mantissa exponent := by
    rw [totalExponent, totalExponent, digits]
    omega
  refine ⟨mantissa <<< shift, exponent - shift, rfl, filled, ?_, ?_⟩
  · rw [total]
    change exponent - (shift : Int) ≤ target
    omega
  · rw [Nat.shiftLeft_eq, Nat.cast_mul, Nat.cast_pow, Nat.cast_ofNat, mul_assoc, ← zpow_natCast,
      ← zpow_add₀ two_ne_zero, add_sub_cancel]

/-- The second shift only takes in the carry of a mantissa that is rounded up to 54 digits. -/
theorem absorb_carry {rounded : Nat} {exponent : Int} (low : -1074 ≤ exponent)
    (short : rounded ≤ 2 ^ 53) :
    ∃ digits last,
      shiftToTargetExponent Format.binary64 rounded exponent .exact =
        (⟨digits, false, false⟩, last) ∧
      (digits : ℚ) * 2 ^ last = rounded * 2 ^ exponent ∧ digits < 2 ^ 53 ∧ exponent ≤ last ∧
      (2 ^ 52 ≤ rounded → 2 ^ 52 ≤ digits) ∧ (rounded < 2 ^ 52 → last = exponent) := by
  rcases short.eq_or_lt with rfl | shorter
  · have carried : (Format.binary64.targetExponent (totalExponent (2 ^ 53) exponent) -
        exponent).toNat = 1 := by
      rw [targetExponent_eq, totalExponent, Nat.log2_two_pow]
      omega
    refine ⟨2 ^ 52, exponent + 1, ?_, ?_, by decide, by omega, fun _ => le_rfl, fun impossible =>
      absurd impossible (by decide)⟩
    · simp only [shiftToTargetExponent, shiftToExponent, carried]
      rfl
    · rw [zpow_add_one₀ two_ne_zero]
      push_cast
      ring
  · have digits : rounded.log2 ≤ 52 := by
      rcases Nat.eq_zero_or_pos rounded with rfl | positive
      · decide
      · exact Nat.lt_succ_iff.mp ((Nat.log2_lt positive.ne').mpr shorter)
    have unshifted : (Format.binary64.targetExponent (totalExponent rounded exponent) -
        exponent).toNat = 0 := by
      rw [targetExponent_eq, totalExponent]
      omega
    refine ⟨rounded, exponent, ?_, rfl, shorter, le_rfl, id, fun _ => rfl⟩
    simp only [shiftToTargetExponent, shiftToExponent, unshifted]
    exact Prod.ext rfl (Int.add_zero exponent)

/-- What rounding gives looks like a double, except that its exponent may be too large. -/
theorem roundWithAccuracy_cases (sign : Sign) {mantissa : Nat} {exponent : Int}
    (positive : 0 < mantissa)
    (long : exponent ≤ Format.binary64.targetExponent (totalExponent mantissa exponent)) :
    (roundWithAccuracy Format.binary64 sign mantissa exponent .exact = .zero sign ∧
      nearestMagnitude (mantissa * 2 ^ exponent) = 0) ∨
    ∃ digits last filled,
      roundWithAccuracy Format.binary64 sign mantissa exponent .exact =
        .finite sign digits last filled ∧
      (digits : ℚ) * 2 ^ last = nearestMagnitude (mantissa * 2 ^ exponent) ∧
      digits < 2 ^ 53 ∧ -1074 ≤ last ∧ (2 ^ 52 ≤ digits ∨ last = -1074) := by
  have magnitude : (0 : ℚ) < mantissa * 2 ^ exponent := by positivity
  have low : -1074 ≤ unitExponent (mantissa * 2 ^ exponent) := le_max_right _ _
  have short := nearestWhole_unit_le magnitude.le
  have normal := le_nearestWhole_unit magnitude
  let count := (unitExponent (mantissa * 2 ^ exponent) - exponent).toNat
  rw [targetExponent_eq_unitExponent positive] at long
  have reached : exponent + count = unitExponent (mantissa * 2 ^ exponent) := by omega
  have rounded :
      (ExtendedMantissa.ofMantissaAndAccuracy mantissa .exact >>> count).roundedMantissa =
        nearestWhole (mantissa * 2 ^ exponent / 2 ^ unitExponent (mantissa * 2 ^ exponent)) := by
    rw [(Keeps.shiftRight mantissa count).roundedMantissa_eq, ← reached, zpow_add₀ two_ne_zero,
      zpow_natCast, mul_comm ((2 : ℚ) ^ exponent),
      mul_div_mul_right _ _ (two_zpow_pos exponent).ne']
  obtain ⟨digits, last, shifted, same, fits, higher, kept, unmoved⟩ := absorb_carry low short
  have result : roundWithAccuracy Format.binary64 sign mantissa exponent .exact =
      if zero : digits = 0 then .zero sign
      else .finite sign digits last (Nat.pos_iff_ne_zero.mpr zero) := by
    have first : shiftToTargetExponent Format.binary64 mantissa exponent .exact =
        (ExtendedMantissa.ofMantissaAndAccuracy mantissa .exact >>> count,
          unitExponent (mantissa * 2 ^ exponent)) := by
      simp only [shiftToTargetExponent, shiftToExponent, targetExponent_eq_unitExponent positive]
      exact Prod.ext rfl reached
    simp only [roundWithAccuracy, first, rounded, shifted]
  rw [result]
  by_cases zero : digits = 0
  · rw [dif_pos zero]
    rw [zero, Nat.cast_zero, zero_mul] at same
    exact .inl ⟨rfl, same.symm⟩
  · rw [dif_neg zero]
    refine .inr ⟨digits, last, Nat.pos_iff_ne_zero.mpr zero, rfl, same, fits, by omega, ?_⟩
    by_cases least : unitExponent (mantissa * 2 ^ exponent) = -1074
    · by_cases filled : 2 ^ 52 ≤ nearestWhole (mantissa * 2 ^ exponent /
          2 ^ unitExponent (mantissa * 2 ^ exponent))
      · exact .inl (kept filled)
      · exact .inr ((unmoved (Nat.lt_of_not_le filled)).trans least)
    · exact .inl (kept (normal least))

/-! ### Places -/

/-- A magnitude with a sign. -/
def signed : Sign → ℚ → ℚ
  | .negative, magnitude => -magnitude
  | .positive, magnitude => magnitude

theorem exact_finite (sign : Sign) {mantissa : Nat} (exponent : Int) (positive : 0 < mantissa) :
    exact (.finite sign mantissa exponent positive) = signed sign (mantissa * 2 ^ exponent) := by
  cases sign <;> simp [exact, Sign.apply, signed]

/-- Where a double stands among the numbers. Infinities stand just outside of all finite ones. -/
def standing : UnpackedFloat → ℚ
  | .infinity sign => signed sign limit
  | .finite sign mantissa exponent positive => exact (.finite sign mantissa exponent positive)
  | .notANumber => 0
  | .zero _ => 0

theorem standing_of_isFinite {unpacked : UnpackedFloat} (finite : unpacked.isFinite = true) :
    standing unpacked = exact unpacked := by
  cases unpacked with
  | notANumber | infinity => cases finite
  | zero | finite => rfl

/-- The number that a number is rounded to, if there is no limit to exponents. -/
def nearest (number : ℚ) : ℚ :=
  if number < 0 then -nearestMagnitude (-number) else nearestMagnitude number

/-- A number, or the limit that it is beyond. -/
def confined (number : ℚ) : ℚ :=
  max (-limit) (min limit number)

theorem limit_pos : 0 < limit :=
  two_zpow_pos 1024

theorem nearest_of_nonneg {number : ℚ} (notNegative : 0 ≤ number) :
    nearest number = nearestMagnitude number := by
  rw [nearest, if_neg notNegative.not_gt]

theorem nearestMagnitude_zero : nearestMagnitude 0 = 0 := by
  rw [nearestMagnitude, zero_div, ← Nat.cast_zero, nearestWhole_natCast, Nat.cast_zero, zero_mul]

theorem nearest_signed (sign : Sign) {magnitude : ℚ} (notNegative : 0 ≤ magnitude) :
    nearest (signed sign magnitude) = signed sign (nearestMagnitude magnitude) := by
  cases sign with
  | positive => exact nearest_of_nonneg notNegative
  | negative =>
      rcases notNegative.eq_or_lt with rfl | positive
      · simp [signed, nearest, nearestMagnitude_zero]
      · simp only [signed]
        rw [nearest, if_pos (neg_lt_zero.mpr positive), InvolutiveNeg.neg_neg]

theorem confined_signed (sign : Sign) {magnitude : ℚ} (notNegative : 0 ≤ magnitude) :
    confined (signed sign magnitude) = signed sign (min limit magnitude) := by
  have positive := limit_pos
  have bounded : 0 ≤ min limit magnitude := le_min positive.le notNegative
  cases sign with
  | positive => exact max_eq_right ((neg_nonpos.mpr positive.le).trans bounded)
  | negative =>
      simp only [signed, confined]
      rw [min_eq_right (by linarith), max_neg_neg]

theorem nearest_mono {small large : ℚ} (ordered : small ≤ large) :
    nearest small ≤ nearest large := by
  rw [nearest, nearest]
  split
  next smallNegative =>
    split
    next largeNegative =>
      exact neg_le_neg (nearestMagnitude_mono (by linarith) (neg_le_neg ordered))
    next =>
      exact (neg_nonpos.mpr (nearestMagnitude_nonneg _)).trans (nearestMagnitude_nonneg _)
  next smallNotNegative =>
    rw [if_neg (by linarith)]
    exact nearestMagnitude_mono (not_lt.mp smallNotNegative) ordered

theorem confined_mono {small large : ℚ} (ordered : small ≤ large) :
    confined small ≤ confined large :=
  max_le_max_left _ (min_le_min_left _ ordered)

/-- Only an exponent that is too large makes a packed number infinite, and then the number is not
below the limit. -/
theorem pack_infinite (sign : Sign) {mantissa : Nat} {exponent : Int} (positive : 0 < mantissa)
    (high : 971 < exponent) :
    Float.Model.pack (.finite sign mantissa exponent positive) =
      Float.Model.pack (.infinity sign) := by
  have fits : 2 ^ 11 ≤ (exponent + 1075).toNat + 1 := by omega
  have infinite : UnpackedFloat.pack Format.binary64 (.finite sign mantissa exponent positive) =
      UnpackedFloat.pack Format.binary64 (.infinity sign) := by
    simp only [UnpackedFloat.pack, biasedExponent_eq]
    rw [if_pos fits]
  simp only [Float.Model.pack, infinite]

theorem standing_pack_roundWithAccuracy (sign : Sign) {mantissa : Nat} {exponent : Int}
    (positive : 0 < mantissa)
    (long : exponent ≤ Format.binary64.targetExponent (totalExponent mantissa exponent)) :
    let packed := (Float.Model.pack
      (roundWithAccuracy Format.binary64 sign mantissa exponent .exact)).unpack
    packed.isNaN = false ∧
      standing packed = signed sign (min limit (nearestMagnitude (mantissa * 2 ^ exponent))) := by
  intro packed
  obtain ⟨zero, rounded⟩ | ⟨digits, last, filled, finite, rounded, short, low, form⟩ :=
    roundWithAccuracy_cases sign positive long
  · have packedZero : packed = .zero sign := by
      simp only [packed, zero, unpack_pack_zero]
    rw [packedZero, rounded, min_eq_right limit_pos.le]
    cases sign <;> simp [standing, signed, UnpackedFloat.isNaN]
  · rw [← rounded, limit_eq]
    rcases le_or_gt last 971 with high | beyond
    · have packedFinite : packed = .finite sign digits last filled := by
        simp only [packed, finite]
        exact unpack_pack ⟨short, low, high, form⟩
      have below : (digits : ℚ) * 2 ^ last ≤ 2 ^ 53 * 2 ^ (971 : Int) := by
        gcongr
        · exact_mod_cast short.le
        · exact one_le_two
      rw [packedFinite, min_eq_right below, standing, exact_finite]
      exact ⟨rfl, rfl⟩
    · have packedInfinite : packed = .infinity sign := by
        simp only [packed, finite, pack_infinite sign filled beyond, unpack_pack_infinity]
      have above : (2 : ℚ) ^ 53 * 2 ^ (971 : Int) ≤ digits * 2 ^ last := by
        calc (2 : ℚ) ^ 53 * 2 ^ (971 : Int) = 2 ^ 52 * 2 ^ ((971 : Int) + 1) := by
              rw [zpow_add_one₀ two_ne_zero]
              ring
          _ ≤ (digits : ℚ) * 2 ^ last := by
              gcongr
              · exact_mod_cast form.resolve_right (by omega)
              · exact one_le_two
              · exact beyond
      rw [packedInfinite, min_eq_left above, standing, limit_eq]
      exact ⟨rfl, rfl⟩

theorem standing_pack_round (sign : Sign) (mantissa : Nat) (exponent : Int) :
    let packed := (Float.Model.pack
      (UnpackedFloat.round Format.binary64 sign mantissa exponent)).unpack
    packed.isNaN = false ∧
      standing packed = signed sign (min limit (nearestMagnitude (mantissa * 2 ^ exponent))) := by
  rcases Nat.eq_zero_or_pos mantissa with rfl | positive
  · rw [round_zero, unpack_pack_zero, Nat.cast_zero, zero_mul, nearestMagnitude_zero,
      min_eq_right limit_pos.le]
    cases sign <;> simp [standing, signed, UnpackedFloat.isNaN]
  · obtain ⟨longer, least, same, filled, long, unchanged⟩ :=
      round_eq_roundWithAccuracy sign exponent positive
    rw [same, ← unchanged]
    exact standing_pack_roundWithAccuracy sign filled long

/-- The law of rounding for numbers of either sign. -/
theorem standing_pack_normalize (total exponent : Int) :
    let packed := (Float.Model.pack
      (UnpackedFloat.normalize Format.binary64 total exponent .positive)).unpack
    packed.isNaN = false ∧
      standing packed = confined (nearest (total * 2 ^ exponent)) := by
  have rounded : ∀ sign (mantissa : Nat), nearest (signed sign (mantissa * 2 ^ exponent)) =
      signed sign (nearestMagnitude (mantissa * 2 ^ exponent)) := fun sign mantissa =>
    nearest_signed sign (by positivity)
  rw [UnpackedFloat.normalize]
  split
  next negative =>
    have less := Int.compare_eq_lt.mp negative
    have sized : (total : ℚ) * 2 ^ exponent =
        signed .negative ((-total).toNat * 2 ^ exponent) := by
      rw [signed, ← Int.cast_natCast, Int.toNat_of_nonneg (by omega), Int.cast_neg, neg_mul,
        InvolutiveNeg.neg_neg]
    rw [sized, rounded, confined_signed _ (nearestMagnitude_nonneg _)]
    exact standing_pack_round .negative _ exponent
  next zero =>
    rw [Int.compare_eq_eq.mp zero, unpack_pack_zero, Int.cast_zero, zero_mul,
      nearest_of_nonneg le_rfl, nearestMagnitude_zero]
    have centre := confined_signed .positive (le_refl 0)
    rw [min_eq_right limit_pos.le] at centre
    exact ⟨rfl, centre.symm⟩
  next positive =>
    have more := Int.compare_eq_gt.mp positive
    have sized : (total : ℚ) * 2 ^ exponent = signed .positive (total.toNat * 2 ^ exponent) := by
      rw [signed, ← Int.cast_natCast, Int.toNat_of_nonneg (by omega)]
    rw [sized, rounded, confined_signed _ (nearestMagnitude_nonneg _)]
    exact standing_pack_round .positive _ exponent

end TurtleGraphics.Number
