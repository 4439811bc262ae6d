import TurtleGraphics.Number.Hypotenuse

set_option autoImplicit false

/-!
# Points and segments

The plane of a drawing has `x` growing to the right and `y` growing upwards. Coordinates may be any
doubles, non-finite ones included.
-/

namespace TurtleGraphics

structure Point where
  x : Float
  y : Float
deriving DecidableEq, Inhabited

def Point.origin : Point := ⟨0.0, 0.0⟩

structure Segment where
  start : Point
  finish : Point
deriving DecidableEq, Inhabited

/-- The Euclidean length. It is infinite if a coordinate difference is, even beside a NaN. -/
def Segment.length (segment : Segment) : Float :=
  Number.hypotenuse (segment.finish.x - segment.start.x) (segment.finish.y - segment.start.y)

end TurtleGraphics
