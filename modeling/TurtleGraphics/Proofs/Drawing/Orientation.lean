import TurtleGraphics.Drawing.Canvas
import TurtleGraphics.Proofs.Number.WholeNumbers

set_option autoImplicit false

/-!
# How a canvas shows the plane

What lies farther to the right is not shown farther to the left, what lies higher is not shown
lower, and the origin is shown exactly in the centre. This includes points at infinity and products
that overflow or vanish, because the scale of a canvas is neither zero nor infinite.
-/

namespace TurtleGraphics

open Number

namespace Canvas

/-! ### Scaling -/

section Scale

variable (canvas : Canvas)

theorem value_scale_pos : 0 < value canvas.scale :=
  (lt_iff rfl canvas.isExtent.1).mp canvas.isExtent.2

theorem rounds_scale :
    Rounds (fun number => number * canvas.scale) (fun number => number * value canvas.scale) :=
  rounds_mul canvas.isExtent.1 canvas.value_scale_pos

theorem scale_le_scale {small large : Float} (ordered : small ≤ large) :
    small * canvas.scale ≤ large * canvas.scale := by
  have increasing : Monotone fun number : ℚ => number * value canvas.scale :=
    monotone_mul_right_of_nonneg canvas.value_scale_pos.le
  exact canvas.rounds_scale.mono increasing ordered

theorem standsFor_scale_zero : StandsFor (0.0 * canvas.scale) 0 := by
  have scale : StandsFor canvas.scale (value canvas.scale) := .of_isFinite canvas.isExtent.1
  have product := standsFor_zero.mul scale
  rw [zero_mul] at product
  exact product (fits_value 0.0)

end Scale

/-! ### The centre -/

section Centre

variable (size : UInt32)

theorem standsFor_centre : StandsFor (size.toFloat / 2.0) (size.toNat / 2) :=
  (standsFor_toFloat size).half

theorem rounds_from_centre :
    Rounds (fun number => size.toFloat / 2.0 + number)
      (fun number => value (size.toFloat / 2.0) + number) :=
  rounds_add (standsFor_centre size).1

theorem from_centre_le {small large : Float} (ordered : small ≤ large) :
    size.toFloat / 2.0 + small ≤ size.toFloat / 2.0 + large :=
  (rounds_from_centre size).mono (fun _ _ less => add_le_add_right less _) ordered

theorem standsFor_centre_add {double : Float} (zero : StandsFor double 0) :
    StandsFor (size.toFloat / 2.0 + double) (size.toNat / 2) := by
  have centre := standsFor_centre size
  have sum := centre.add zero
  rw [add_zero, ← centre.2] at sum
  rw [← centre.2]
  exact sum (fits_value _)

end Centre

/-! ### Pixels -/

section Pixels

variable (canvas : Canvas)

theorem pixel_y (point : Point) : (canvas.pixel point).y =
    canvas.viewport.height.toFloat / 2.0 + -(point.y * canvas.scale) :=
  sub_eq_add_neg _ _

theorem isNaN_pixel_x {point : Point} (number : point.x.isNaN = false) :
    (canvas.pixel point).x.isNaN = false :=
  (rounds_from_centre _).isNaN (canvas.rounds_scale.isNaN number)

theorem isNaN_pixel_y {point : Point} (number : point.y.isNaN = false) :
    (canvas.pixel point).y.isNaN = false := by
  rw [canvas.pixel_y]
  apply (rounds_from_centre _).isNaN
  rw [isNaN_neg]
  exact canvas.rounds_scale.isNaN number

theorem pixel_x_le {left right : Point} (ordered : left.x ≤ right.x) :
    (canvas.pixel left).x ≤ (canvas.pixel right).x :=
  from_centre_le _ (canvas.scale_le_scale ordered)

theorem pixel_y_le {lower upper : Point} (ordered : lower.y ≤ upper.y) :
    (canvas.pixel upper).y ≤ (canvas.pixel lower).y := by
  rw [canvas.pixel_y, canvas.pixel_y]
  exact from_centre_le _ (Number.neg_le_neg (canvas.scale_le_scale ordered))

theorem standsFor_pixel_origin :
    StandsFor (canvas.pixel .origin).x (canvas.viewport.width.toNat / 2) ∧
      StandsFor (canvas.pixel .origin).y (canvas.viewport.height.toNat / 2) := by
  have nothing := canvas.standsFor_scale_zero
  constructor
  · exact standsFor_centre_add _ nothing
  · have opposite := nothing.neg
    rw [neg_zero] at opposite
    rw [canvas.pixel_y]
    exact standsFor_centre_add _ opposite

end Pixels

/-- What a canvas shows is the plane with its directions, the vertical one reversed. -/
theorem pixel_keeps_orientation {viewport : Viewport} {scale : Float} {canvas : Canvas}
    (made : of viewport scale = .ok canvas) :
    (∀ point : Point, point.x.isNaN = false → point.y.isNaN = false →
      (canvas.pixel point).x.isNaN = false ∧ (canvas.pixel point).y.isNaN = false) ∧
    (∀ left right : Point, left.x ≤ right.x → (canvas.pixel left).x ≤ (canvas.pixel right).x) ∧
    (∀ lower upper : Point, lower.y ≤ upper.y → (canvas.pixel upper).y ≤ (canvas.pixel lower).y) ∧
    (∀ x y other, (canvas.pixel ⟨x, y⟩).x = (canvas.pixel ⟨x, other⟩).x ∧
      (canvas.pixel ⟨x, y⟩).y = (canvas.pixel ⟨other, y⟩).y) ∧
    StandsFor (canvas.pixel .origin).x (viewport.width.toNat / 2) ∧
    StandsFor (canvas.pixel .origin).y (viewport.height.toNat / 2) ∧
    ∀ start finish,
      canvas.pixels ⟨start, finish⟩ = (canvas.pixel start, canvas.pixel finish) := by
  obtain ⟨rfl, rfl⟩ := of_eq_ok made
  obtain ⟨across, down⟩ := canvas.standsFor_pixel_origin
  exact ⟨fun _ x y => ⟨canvas.isNaN_pixel_x x, canvas.isNaN_pixel_y y⟩,
    fun _ _ => canvas.pixel_x_le, fun _ _ => canvas.pixel_y_le, fun _ _ _ => ⟨rfl, rfl⟩, across,
    down, fun _ _ => rfl⟩

/-- The least scale and an odd size. A point at infinity is still shown in its direction. -/
theorem pixel_keeps_orientation_extreme :
    ∃ canvas : Canvas,
      of ⟨1, 4294967295⟩ 5e-324 = .ok canvas ∧
      (canvas.pixel ⟨-1.0 / 0.0, 1.0 / 0.0⟩).x.isNaN = false ∧
      (canvas.pixel ⟨-1.0 / 0.0, 1.0⟩).x ≤ (canvas.pixel ⟨1e308, 0.0⟩).x ∧
      (canvas.pixel ⟨0.0, 1.0 / 0.0⟩).y ≤ (canvas.pixel ⟨0.0, 0.0⟩).y ∧
      StandsFor (canvas.pixel .origin).x (1 / 2) := by
  have hasPixels : Viewport.HasPixels ⟨1, 4294967295⟩ := by decide
  have isExtent : IsExtent 5e-324 := by decide +kernel
  have made : of ⟨1, 4294967295⟩ 5e-324 = .ok ⟨_, _, hasPixels, isExtent⟩ := by
    rw [of, dif_pos hasPixels, dif_pos isExtent]
  obtain ⟨numbers, across, down, _, centre, _⟩ := pixel_keeps_orientation made
  refine ⟨_, made, (numbers _ ?_ ?_).1, across _ _ ?_, down _ _ ?_, ?_⟩
  · decide
  · decide
  · decide +kernel
  · decide
  · exact_mod_cast centre

end Canvas

end TurtleGraphics
