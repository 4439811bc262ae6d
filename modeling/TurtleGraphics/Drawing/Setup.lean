import TurtleGraphics.Drawing.Style
import TurtleGraphics.Geometry.Point
import TurtleGraphics.Turtle.Command

set_option autoImplicit false

/-!
# Setups

A setup says everything about a drawing but its commands. How the turtle moves is not checked: its
numbers may be any doubles. What is drawn upon is checked before a drawing starts.
-/

namespace TurtleGraphics

/-- How the turtle moves: the length of a step, the angle of a turn in degrees, and where and how
it starts. -/
structure Motion where
  step : Float
  delta : Float
  start : Point
  heading : Float
deriving DecidableEq, Inhabited

namespace Motion

/-- Steps of thirty and quarter turns, upwards from the origin. -/
def standard : Motion := ⟨30.0, 90.0, .origin, 90.0⟩

def pacing (step delta : Float) : Motion :=
  { standard with step, delta }

def demo : Motion := pacing 35.0 90.0

end Motion

structure Setup where
  motion : Motion
  viewport : Viewport
  /-- Pixels to a unit of the plane. -/
  scale : Float
  style : Style
  alphabet : Alphabet
deriving DecidableEq, Inhabited

namespace Setup

def moving (motion : Motion) : Setup :=
  ⟨motion, .standard, 1.0, .standard, .basic⟩

def standard : Setup := moving .standard

def demo : Setup := moving .demo

def demoCommands : String := "FFF-FF-F+F+FF-F-FFF"

/-- The first reason why nothing can be drawn with a setup: its viewport, its scale, then its style.
The tests of the viewport and the scale are written out once more in `Canvas.of`. -/
def undrawable? (setup : Setup) : Option Undrawable :=
  if ¬ setup.viewport.HasPixels then some (.emptyViewport setup.viewport)
  else if ¬ IsExtent setup.scale then some .scale
  else setup.style.undrawable?

end Setup

end TurtleGraphics
