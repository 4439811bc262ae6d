set_option autoImplicit false

/-!
# Viewports

The size in pixels of the area that a drawing is shown in.
-/

namespace TurtleGraphics

/-- A width and a height in pixels. Empty viewports can be stated, but nothing is drawn in one. -/
structure Viewport where
  width : UInt32
  height : UInt32
deriving DecidableEq, Inhabited

namespace Viewport

def standard : Viewport := ⟨800, 600⟩

def HasPixels (viewport : Viewport) : Prop :=
  0 < viewport.width ∧ 0 < viewport.height

instance (viewport : Viewport) : Decidable viewport.HasPixels :=
  inferInstanceAs (Decidable (_ ∧ _))

end Viewport

end TurtleGraphics
