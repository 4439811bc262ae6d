import TurtleGraphics.Geometry.Viewport

set_option autoImplicit false

/-!
# What makes a drawing impossible

The causes for which a canvas or a style is refused, with their wording, and the two ranges that
numbers are checked against.
-/

namespace TurtleGraphics

/-- The four channels of a colour, in the order in which they are written and checked. -/
inductive Channel where
  | red
  | green
  | blue
  | alpha
deriving DecidableEq, Inhabited, Repr

def Channel.name : Channel → String
  | .red => "red"
  | .green => "green"
  | .blue => "blue"
  | .alpha => "alpha"

/-- A finite value from 0 to 1, both included. -/
def IsIntensity (value : Float) : Prop :=
  value.isFinite = true ∧ 0.0 ≤ value ∧ value ≤ 1.0

instance (value : Float) : Decidable (IsIntensity value) :=
  inferInstanceAs (Decidable (_ ∧ _))

/-- A finite value above zero. -/
def IsExtent (value : Float) : Prop :=
  value.isFinite = true ∧ 0.0 < value

instance (value : Float) : Decidable (IsExtent value) :=
  inferInstanceAs (Decidable (_ ∧ _))

/-- A reason why nothing can be drawn. A channel fault does not say which colour has it. -/
inductive Undrawable where
  | emptyViewport (viewport : Viewport)
  | scale
  | strokeWidth
  | channel (refused : Channel)
deriving DecidableEq

def Undrawable.message : Undrawable → String
  | .emptyViewport viewport =>
    "invalid viewport size: width=" ++ toString viewport.width.toNat ++
      ", height=" ++ toString viewport.height.toNat
  | .scale => "invalid data: canvas scale must be finite and > 0"
  | .strokeWidth => "invalid data: stroke width must be finite and > 0"
  | .channel refused =>
    "invalid data: color channel `" ++ refused.name ++ "` must be finite and in [0, 1]"

end TurtleGraphics
