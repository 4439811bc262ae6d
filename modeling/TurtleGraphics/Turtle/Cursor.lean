import TurtleGraphics.Geometry.Point
import TurtleGraphics.Turtle.Command
import TurtleGraphics.Turtle.Heading

set_option autoImplicit false

/-!
# Cursors

A cursor is the turtle itself: where it stands and which way it faces. Saving and restoring is not
its own business, so brackets leave it as it is.
-/

namespace TurtleGraphics

structure Cursor where
  position : Point
  heading : Float
deriving DecidableEq, Inhabited

namespace Cursor

/-- A cursor that faces the given angle, brought into the range of headings. -/
def facing (position : Point) (degrees : Float) : Cursor :=
  ⟨position, Heading.normalize degrees⟩

/-- One step along the heading, or against it if the step is negative. -/
def advance (cursor : Cursor) (step : Float) : Cursor where
  position :=
    ⟨cursor.position.x + step * Heading.cosine cursor.heading,
      cursor.position.y + step * Heading.sine cursor.heading⟩
  heading := cursor.heading

/-- A turn on the spot, to the left if the angle is positive. -/
def turn (cursor : Cursor) (degrees : Float) : Cursor :=
  facing cursor.position (cursor.heading + degrees)

/-- The cursor after a command, and the segment that the command draws. -/
def apply (cursor : Cursor) (command : Command) (step delta : Float) : Cursor × Option Segment :=
  match command with
  | .forward =>
    let next := cursor.advance step
    (next, some ⟨cursor.position, next.position⟩)
  | .move => (cursor.advance step, none)
  | .turnLeft => (cursor.turn delta, none)
  | .turnRight => (cursor.turn (-delta), none)
  | .push => (cursor, none)
  | .pop => (cursor, none)

end Cursor

end TurtleGraphics
