import TurtleGraphics.Proofs.Number.Closest
import TurtleGraphics.Proofs.Turtle.Headings

set_option autoImplicit false

/-!
# Residues of angles

A heading is the residue of an angle modulo a full turn, rounded once. The remainder of a division
needs no rounding, so only the full turn that is added to a negative one does. What is rounded up to
a full turn becomes zero.
-/

namespace TurtleGraphics.Heading

open Number

/-! ### Exact residues -/

/-- The angle from 0 up to a full turn that differs from the given one by full turns. -/
def residue (degrees : ℚ) : ℚ :=
  Int.fract (degrees / fullTurn) * fullTurn

theorem fullTurn_pos : (0 : ℚ) < fullTurn := by
  norm_num [fullTurn]

theorem residue_mem (degrees : ℚ) : residue degrees ∈ Set.Ico (0 : ℚ) fullTurn :=
  Int.fract_div_mul_self_mem_Ico _ degrees fullTurn_pos

theorem residue_eq {degrees rest : ℚ} (turns : ℤ) (split : degrees = rest + turns * fullTurn)
    (notNegative : 0 ≤ rest) (below : rest < fullTurn) : residue degrees = rest := by
  have divided : degrees / fullTurn = rest / fullTurn + turns := by
    rw [split, add_div, mul_div_cancel_right₀ _ fullTurn_pos.ne']
  have fraction : Int.fract (rest / fullTurn) = rest / fullTurn := by
    rw [Int.fract_eq_self]
    exact ⟨div_nonneg notNegative fullTurn_pos.le, (div_lt_one fullTurn_pos).mpr below⟩
  rw [residue, divided, Int.fract_add_intCast, fraction, div_mul_cancel₀ _ fullTurn_pos.ne']

theorem residue_intCast (whole : ℤ) : residue whole = (whole % fullTurn : ℤ) := by
  apply residue_eq (whole / fullTurn)
  · exact_mod_cast (Int.emod_add_ediv_mul whole fullTurn).symm
  · exact_mod_cast Int.emod_nonneg whole (by decide)
  · exact_mod_cast Int.emod_lt_of_pos whole (by decide)

/-! ### Rounded residues -/

theorem nearestMagnitude_residue_le (degrees : ℚ) :
    nearestMagnitude (residue degrees) ≤ fullTurn := by
  obtain ⟨notNegative, below⟩ := residue_mem degrees
  have fits : Fits (fullTurn : ℚ) := by
    rw [← isPeriod_fullTurn.exact]
    exact fits_value _
  rw [← fits.nearestMagnitude_eq fullTurn_pos.le]
  exact nearestMagnitude_mono notNegative below.le

/-- A remainder that is not negative is the residue itself, and from a negative one it is a full
turn away. -/
theorem exists_wrapped {degrees : Float} (finite : degrees.isFinite = true) :
    ∃ wrapped : Float,
      normalize degrees = (if fullTurn.toFloat ≤ wrapped then 0.0 else wrapped) ∧
      StandsFor wrapped (nearestMagnitude (residue (value degrees))) := by
  obtain ⟨number, smaller, turns, split⟩ := remainder_spec isPeriod_fullTurn finite
  obtain ⟨above, below⟩ := abs_lt.mp smaller
  refine ⟨_, rfl, ?_⟩
  split
  next negative =>
    have less : value (remainder degrees fullTurn) < 0 := (lt_iff number rfl).mp negative
    have notNegative : 0 ≤ value (remainder degrees fullTurn) + value fullTurn.toFloat := by
      rw [isPeriod_fullTurn.exact]
      linarith
    have shifted : residue (value degrees) =
        value (remainder degrees fullTurn) + value fullTurn.toFloat := by
      rw [isPeriod_fullTurn.exact] at notNegative ⊢
      apply residue_eq (turns - 1) _ notNegative (by linarith)
      push_cast
      linarith
    rw [shifted]
    exact standsFor_add number isPeriod_fullTurn.finite
      (isFinite_add number isPeriod_fullTurn.finite (smaller.trans fullTurn_lt)) notNegative
  next notNegative =>
    rw [lt_iff number rfl, not_lt] at notNegative
    have same : residue (value degrees) = value (remainder degrees fullTurn) :=
      residue_eq turns split notNegative below
    rw [same, (fits_value _).nearestMagnitude_eq notNegative]
    exact .of_isFinite number

theorem standsFor_cut {wrapped : Float} {number : ℚ} (stands : StandsFor wrapped number)
    (short : number ≤ fullTurn) :
    StandsFor (if fullTurn.toFloat ≤ wrapped then 0.0 else wrapped)
      (if number = fullTurn then 0 else number) := by
  have full : fullTurn.toFloat ≤ wrapped ↔ number = fullTurn := by
    rw [le_iff isPeriod_fullTurn.finite stands.1, stands.2, isPeriod_fullTurn.exact]
    exact short.ge_iff_eq
  rw [if_congr full rfl rfl]
  split
  · exact standsFor_zero
  · exact stands

theorem standsFor_normalize_residue {degrees : Float} (finite : degrees.isFinite = true) :
    StandsFor (normalize degrees)
      (if nearestMagnitude (residue (value degrees)) = fullTurn then 0
        else nearestMagnitude (residue (value degrees))) := by
  obtain ⟨wrapped, normalized, stands⟩ := exists_wrapped finite
  rw [normalized]
  exact standsFor_cut stands (nearestMagnitude_residue_le _)

/-- A finite angle is brought to the double that is closest to its residue, or to zero if that is a
full turn. Other angles have no heading. Doing it again changes nothing, not even the sign of a
zero. -/
theorem normalize_closest_residue (degrees : Float) :
    (degrees.isFinite = true →
      (∃ closest, IsClosest closest (residue (value degrees))) ∧
      ∀ closest, IsClosest closest (residue (value degrees)) →
        StandsFor (normalize degrees) (if value closest = fullTurn then 0 else value closest)) ∧
    (degrees.isFinite = false → (normalize degrees).isNaN = true) ∧
    normalize (normalize degrees) = normalize degrees := by
  refine ⟨fun finite => ?_, fun special => ?_, normalize_normalize degrees⟩
  · obtain ⟨wrapped, -, stands⟩ := exists_wrapped finite
    have rounded : ∀ double, IsClosest double (residue (value degrees)) ↔
        StandsFor double (nearestMagnitude (residue (value degrees))) :=
      fun _ => isClosest_iff (residue_mem _).1 stands
    refine ⟨⟨wrapped, (rounded wrapped).mpr stands⟩, fun closest isClosest => ?_⟩
    rw [((rounded closest).mp isClosest).2]
    exact standsFor_normalize_residue finite
  · rw [normalize_of_not_isFinite special]
    rfl

/-- The residue is half way between a full turn, which is even, and the double below it. -/
theorem normalize_closest_residue_half_way :
    let angle : Float := -2.842170943040401e-14
    (residue (value angle) = 360 - 1 / 2 ^ 45 ∧
      IsClosest fullTurn.toFloat (residue (value angle)) ∧ StandsFor (normalize angle) 0) ∧
    (normalize (1.0 / 0.0)).isNaN = true ∧
    normalize (normalize angle) = normalize angle := by
  have unpacked : (-2.842170943040401e-14 : Float).toModel.unpack =
      .finite .negative (2 ^ 52) (-97) (by decide) := by rfl
  intro angle
  obtain ⟨finite, valued⟩ : StandsFor angle _ := standsFor_of_unpack unpacked
  have half : residue (value angle) = 360 - 1 / 2 ^ 45 := by
    rw [valued]
    apply residue_eq (-1) <;> norm_num [signed, fullTurn]
  have rounded : nearestMagnitude (360 - 1 / 2 ^ 45) = fullTurn := by decide +kernel
  have stands : StandsFor fullTurn.toFloat (nearestMagnitude (residue (value angle))) := by
    rw [half, rounded]
    exact ⟨isPeriod_fullTurn.finite, isPeriod_fullTurn.exact⟩
  have closest : IsClosest fullTurn.toFloat (residue (value angle)) :=
    (isClosest_iff (residue_mem _).1 stands).mpr stands
  have normalized := ((normalize_closest_residue angle).1 finite).2 _ closest
  rw [isPeriod_fullTurn.exact, if_pos rfl] at normalized
  exact ⟨⟨half, closest, normalized⟩, (normalize_closest_residue (1.0 / 0.0)).2.1 rfl,
    (normalize_closest_residue angle).2.2⟩

end TurtleGraphics.Heading
