import TurtleGraphics.Proofs.Number.Overflow
import TurtleGraphics.Proofs.Number.Remainder
import TurtleGraphics.Proofs.Number.Special
import TurtleGraphics.Proofs.Turtle.Census

set_option autoImplicit false

/-!
# Headings of a turtle

Every heading that a turtle can have is NaN or lies in the half-open range from 0 to 360, and such
headings are left alone by the normalization. A heading becomes NaN only by an angle that is not
finite, since what a turn adds to a heading of the range does not overflow.
-/

namespace TurtleGraphics

namespace Heading

open Number

/-- NaN or a number from the range of headings. Zeros of both signs belong to it. -/
def IsNormal (degrees : Float) : Prop :=
  degrees.isNaN = true ∨ 0.0 ≤ degrees ∧ degrees < fullTurn.toFloat

theorem isPeriod_fullTurn : IsPeriod fullTurn where
  positive := by decide
  short := by decide
  finite := rfl
  exact := by
    have unpacked : fullTurn.toFloat.toModel.unpack =
        .finite .positive (360 * 2 ^ 44) (-44) (by decide) := rfl
    rw [(standsFor_of_unpack unpacked).2, fullTurn]
    norm_num [signed]

theorem normalize_of_not_isFinite {degrees : Float} (special : degrees.isFinite = false) :
    normalize degrees = 0.0 / 0.0 := by
  rw [normalize, remainder_of_not_isFinite special]
  rfl

theorem normalize_of_isNormal {degrees : Float} (normal : IsNormal degrees) :
    normalize degrees = degrees := by
  rcases normal with notANumber | ⟨notNegative, below⟩
  · rw [eq_nan_of_isNaN notANumber]
    rfl
  · have finite : degrees.isFinite = true := isFinite_of_le_of_lt rfl notNegative below
    have notLess : ¬ degrees < 0.0 := by
      rw [lt_iff finite rfl, not_lt]
      exact (le_iff rfl finite).mp notNegative
    have notAbove : ¬ fullTurn.toFloat ≤ degrees := by
      rw [le_iff isPeriod_fullTurn.finite finite, not_le]
      exact (lt_iff finite isPeriod_fullTurn.finite).mp below
    have magnitude : degrees.abs < fullTurn.toFloat := by
      rw [lt_iff ((isFinite_abs degrees).trans finite) isPeriod_fullTurn.finite, value_abs,
        abs_of_nonneg ((le_iff rfl finite).mp notNegative)]
      exact (lt_iff finite isPeriod_fullTurn.finite).mp below
    simp only [normalize, remainder_of_abs_lt magnitude, if_neg notLess, if_neg notAbove]

theorem isNormal_cut {wrapped : Float} (notNegative : ¬ wrapped < 0.0) :
    IsNormal (if fullTurn.toFloat ≤ wrapped then 0.0 else wrapped) := by
  split
  next => exact .inr ⟨by decide, by decide⟩
  next notAbove =>
    cases special : wrapped.isNaN with
    | true => exact .inl special
    | false => exact .inr ⟨le_of_not_lt special rfl notNegative, lt_of_not_le rfl special notAbove⟩

/-- A negative remainder wraps around without falling below zero, whatever the rounding. -/
theorem isNormal_normalize (degrees : Float) : IsNormal (normalize degrees) := by
  cases finite : degrees.isFinite with
  | false =>
      rw [normalize_of_not_isFinite finite]
      exact .inl rfl
  | true =>
      obtain ⟨number, smaller, _⟩ := remainder_spec isPeriod_fullTurn finite
      rw [normalize]
      apply isNormal_cut
      split
      next =>
        apply not_add_lt_zero number isPeriod_fullTurn.finite
        rw [isPeriod_fullTurn.exact, ← neg_le_iff_add_nonneg]
        exact (abs_lt.mp smaller).1.le
      next notNegative => exact notNegative

theorem normalize_normalize (degrees : Float) :
    normalize (normalize degrees) = normalize degrees :=
  normalize_of_isNormal (isNormal_normalize degrees)

/-! ### Finite headings -/

theorem IsNormal.isNaN_eq {degrees : Float} (normal : IsNormal degrees) :
    degrees.isNaN = !degrees.isFinite := by
  rcases normal with notANumber | ⟨notNegative, below⟩
  · rw [eq_nan_of_isNaN notANumber]
    rfl
  · have finite : degrees.isFinite = true := isFinite_of_le_of_lt rfl notNegative below
    rw [finite, isNaN_of_isFinite finite]
    rfl

theorem IsNormal.abs_value_lt {degrees : Float} (normal : IsNormal degrees)
    (finite : degrees.isFinite = true) : |value degrees| < fullTurn := by
  rcases normal with notANumber | ⟨notNegative, below⟩
  · rw [eq_nan_of_isNaN notANumber] at finite
    cases finite
  · rw [abs_of_nonneg ((le_iff rfl finite).mp notNegative), ← isPeriod_fullTurn.exact]
    exact (lt_iff finite isPeriod_fullTurn.finite).mp below

theorem fullTurn_lt : (fullTurn : ℚ) < 2 ^ (970 : Int) :=
  calc (fullTurn : ℚ) < 2 ^ (9 : Int) := by norm_num [fullTurn]
    _ ≤ 2 ^ (970 : Int) := zpow_le_zpow_right₀ one_le_two (by decide)

theorem isFinite_cut {wrapped : Float} (finite : wrapped.isFinite = true) :
    (if fullTurn.toFloat ≤ wrapped then 0.0 else wrapped).isFinite = true := by
  split
  next => rfl
  next => exact finite

theorem isFinite_normalize (degrees : Float) :
    (normalize degrees).isFinite = degrees.isFinite := by
  cases finite : degrees.isFinite with
  | false =>
      rw [normalize_of_not_isFinite finite]
      rfl
  | true =>
      obtain ⟨number, smaller, _⟩ := remainder_spec isPeriod_fullTurn finite
      rw [normalize]
      apply isFinite_cut
      split
      next => exact isFinite_add number isPeriod_fullTurn.finite (smaller.trans fullTurn_lt)
      next => exact number

/-- What a finite angle adds to a finite heading does not overflow, however large the angle is. -/
theorem IsNormal.isFinite_add {degrees : Float} (normal : IsNormal degrees) (delta : Float) :
    (degrees + delta).isFinite = true ↔ degrees.isFinite = true ∧ delta.isFinite = true := by
  constructor
  · exact isFinite_of_isFinite_add
  · rintro ⟨finite, deltaFinite⟩
    exact Number.isFinite_add finite deltaFinite ((normal.abs_value_lt finite).trans fullTurn_lt)

end Heading

theorem Cursor.facing_of_isNormal {cursor : Cursor} (normal : Heading.IsNormal cursor.heading) :
    Cursor.facing cursor.position cursor.heading = cursor := by
  rw [facing, Heading.normalize_of_isNormal normal]

namespace Turtle

/-- Every heading that the turtle can have by restoring cursors, its own included, is allowed. -/
def Faces (turtle : Turtle) (allowed : Float → Prop) : Prop :=
  ∀ cursor ∈ turtle.cursor :: turtle.saved, allowed cursor.heading

variable {step delta : Float}

theorem Faces.next {turtle : Turtle} {allowed : Float → Prop} (faces : turtle.Faces allowed)
    (turned : ∀ heading, allowed heading →
      allowed (Heading.normalize (heading + delta)) ∧
        allowed (Heading.normalize (heading + -delta)))
    (command : Command) : (turtle.next step delta command).Faces allowed := by
  obtain ⟨cursor, saved⟩ := turtle
  obtain ⟨current, earlier⟩ := List.forall_mem_cons.mp faces
  cases command with
  | forward | move => exact List.forall_mem_cons.mpr ⟨current, earlier⟩
  | turnLeft => exact List.forall_mem_cons.mpr ⟨(turned _ current).1, earlier⟩
  | turnRight => exact List.forall_mem_cons.mpr ⟨(turned _ current).2, earlier⟩
  | push => exact List.forall_mem_cons.mpr ⟨current, faces⟩
  | pop =>
      cases saved with
      | nil => exact faces
      | cons restored saved => exact earlier

/-- Whatever the turtle can face, now or after restoring a cursor. -/
def HasNormalHeadings (turtle : Turtle) : Prop :=
  ∀ cursor ∈ turtle.cursor :: turtle.saved, Heading.IsNormal cursor.heading

theorem hasNormalHeadings_facing (position : Point) (degrees : Float) :
    HasNormalHeadings ⟨.facing position degrees, []⟩ := by
  intro cursor member
  obtain rfl := List.mem_singleton.mp member
  exact Heading.isNormal_normalize degrees

theorem HasNormalHeadings.next {turtle : Turtle} (normal : turtle.HasNormalHeadings)
    (command : Command) : (turtle.next step delta command).HasNormalHeadings :=
  Faces.next normal (fun _ _ => ⟨Heading.isNormal_normalize _, Heading.isNormal_normalize _⟩)
    command

theorem HasNormalHeadings.walk {turtle : Turtle} (normal : turtle.HasNormalHeadings)
    (commands : List Command) : (turtle.walk step delta commands).HasNormalHeadings :=
  walk_keeps (fun _ command normal => normal.next command) commands normal

theorem isFinite_heading_next {turtle : Turtle} {command : Command} (noPop : command ≠ .pop)
    (normal : turtle.HasNormalHeadings) :
    (turtle.next step delta command).cursor.heading.isFinite = true ↔
      turtle.cursor.heading.isFinite = true ∧
        (delta.isFinite = true ∨ command.kind ≠ .turn) := by
  have turned := (normal _ List.mem_cons_self).isFinite_add
  cases command with
  | pop => exact absurd rfl noPop
  | forward | move | push => simp [Turtle.next, Cursor.apply, Cursor.advance, Command.kind]
  | turnLeft =>
      have led : (turtle.next step delta .turnLeft).cursor.heading =
          Heading.normalize (turtle.cursor.heading + delta) := rfl
      simp [led, Heading.isFinite_normalize, turned, Command.kind]
  | turnRight =>
      have led : (turtle.next step delta .turnRight).cursor.heading =
          Heading.normalize (turtle.cursor.heading + -delta) := rfl
      simp [led, Heading.isFinite_normalize, turned, Command.kind, Number.isFinite_neg]

/-- Without restored cursors, one turn by an angle that is not finite is never made good. -/
theorem isFinite_heading_walk {commands : List Command} (noPop : .pop ∉ commands)
    {turtle : Turtle} (normal : turtle.HasNormalHeadings) :
    (turtle.walk step delta commands).cursor.heading.isFinite = true ↔
      turtle.cursor.heading.isFinite = true ∧
        (delta.isFinite = true ∨ ∀ command ∈ commands, command.kind ≠ .turn) := by
  induction commands generalizing turtle with
  | nil => simp [Turtle.walk]
  | cons command commands ih =>
      obtain ⟨stays, noPop⟩ := not_or.mp (mt List.mem_cons.mpr noPop)
      have next : (turtle.next step delta command).HasNormalHeadings := normal.next command
      rw [walk, List.foldl_cons, ← walk, ih noPop next,
        isFinite_heading_next (Ne.symm stays) normal, List.forall_mem_cons]
      tauto

end Turtle

end TurtleGraphics
