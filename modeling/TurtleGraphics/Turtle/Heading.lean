import TurtleGraphics.Number.Remainder

set_option autoImplicit false

/-!
# Headings

A heading is an angle in degrees, counted against the clock from the positive `x` axis. Headings
are kept in the half-open range from 0 to 360.
-/

namespace TurtleGraphics.Heading

def fullTurn : Nat := 360

/-- The residue of an angle modulo a full turn. A tiny negative angle rounds up to a full turn and
then counts as zero. Negative zero stays negative zero, and a non-finite angle gives NaN. -/
def normalize (degrees : Float) : Float :=
  let remainder := Number.remainder degrees fullTurn
  let wrapped := if remainder < 0.0 then remainder + fullTurn.toFloat else remainder
  if fullTurn.toFloat ≤ wrapped then 0.0 else wrapped

def radiansPerDegree : Float := 0.017453292519943295

def radians (degrees : Float) : Float :=
  degrees * radiansPerDegree

/-- The horizontal part of a unit step. NaN has no direction. -/
def cosine (degrees : Float) : Float :=
  let angle := radians degrees
  if angle.isNaN then angle else angle.cos

/-- The vertical part of a unit step. NaN has no direction. -/
def sine (degrees : Float) : Float :=
  let angle := radians degrees
  if angle.isNaN then angle else angle.sin

end TurtleGraphics.Heading
