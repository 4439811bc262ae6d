import TurtleGraphics.Number.Layout

set_option autoImplicit false

/-!
# Numbers in JSON

How a double is written inside a JSON text and in messages about one.
-/

namespace TurtleGraphics.Json

/-- Positional from `0.00001` up to sixteen digits before the point, else with a signed exponent;
a half goes to the even digit. -/
def numberLayout : Number.Layout := ⟨-5, 15, true, .toEven⟩

end TurtleGraphics.Json
