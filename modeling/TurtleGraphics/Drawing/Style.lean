import TurtleGraphics.Drawing.Undrawable

set_option autoImplicit false

/-!
# Colours and strokes

Colours and styles out of range can be stated; `undrawable?` gives the first reason why they cannot
be drawn.
-/

namespace TurtleGraphics

structure Color where
  red : Float
  green : Float
  blue : Float
  alpha : Float
deriving DecidableEq, Inhabited

namespace Color

def solid (red green blue : Float) : Color :=
  ⟨red, green, blue, 1.0⟩

def black : Color := solid 0.0 0.0 0.0

def white : Color := solid 1.0 1.0 1.0

/-- The channels in writing order, each with its value. -/
def channels (color : Color) : List (Channel × Float) :=
  [(.red, color.red), (.green, color.green), (.blue, color.blue), (.alpha, color.alpha)]

def undrawable? (color : Color) : Option Undrawable :=
  (color.channels.find? fun entry => ¬ IsIntensity entry.2).map fun entry => .channel entry.1

end Color

/-- How a drawing is stroked, and what it is stroked upon. -/
structure Style where
  color : Color
  width : Float
  background : Color
deriving DecidableEq, Inhabited

namespace Style

/-- A black stroke of width one on white. -/
def standard : Style := ⟨.black, 1.0, .white⟩

/-- The first thing wrong with a style: its width, then the channels of the stroke, then those of
the background. -/
def undrawable? (style : Style) : Option Undrawable :=
  if IsExtent style.width then
    style.color.undrawable?.or style.background.undrawable?
  else some .strokeWidth

end Style

end TurtleGraphics
