import TurtleGraphics.Drawing.Undrawable
import TurtleGraphics.Geometry.Point

set_option autoImplicit false

/-!
# Canvases

A canvas shows the plane in a viewport. The origin stands in the centre, and since pixels are
counted downwards while the plane grows upwards, the vertical direction is reversed.
-/

namespace TurtleGraphics

/-- A viewport with pixels in it and a usable number of pixels to a unit of the plane. -/
structure Canvas where
  viewport : Viewport
  scale : Float
  hasPixels : viewport.HasPixels
  isExtent : IsExtent scale

/-- A position in pixels, from the upper left corner. -/
structure Pixel where
  x : Float
  y : Float
deriving DecidableEq, Inhabited

namespace Canvas

/-- The canvas of a viewport and a scale, or the first reason why there is none. Both are tested
whether or not they come from a setup that was tested before. -/
def of (viewport : Viewport) (scale : Float) : Except Undrawable Canvas :=
  if hasPixels : viewport.HasPixels then
    if isExtent : IsExtent scale then .ok ⟨viewport, scale, hasPixels, isExtent⟩
    else .error .scale
  else .error (.emptyViewport viewport)

theorem of_eq_ok {viewport : Viewport} {scale : Float} {canvas : Canvas}
    (made : of viewport scale = .ok canvas) :
    canvas.viewport = viewport ∧ canvas.scale = scale := by
  unfold of at made
  split at made
  · split at made
    · cases made; exact ⟨rfl, rfl⟩
    · cases made
  · cases made

/-- Where a point of the plane is shown, inside the viewport or not. -/
def pixel (canvas : Canvas) (point : Point) : Pixel where
  x := canvas.viewport.width.toFloat / 2.0 + point.x * canvas.scale
  y := canvas.viewport.height.toFloat / 2.0 - point.y * canvas.scale

def pixels (canvas : Canvas) (segment : Segment) : Pixel × Pixel :=
  (canvas.pixel segment.start, canvas.pixel segment.finish)

end Canvas

end TurtleGraphics
