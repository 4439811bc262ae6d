import TurtleGraphics.Drawing.Surface

set_option autoImplicit false

/-!
# Counting surfaces

A surface that only counts what is drawn on it and refuses nothing.
-/

namespace TurtleGraphics

/-- How many segments were drawn since the last start, and whether they were shown. -/
structure Counting where
  segments : Nat
  presented : Bool
deriving DecidableEq, Inhabited

namespace Counting

def blank : Counting := ⟨0, false⟩

def after (call : Call) (counting : Counting) : Counting :=
  match call with
  | .begin _ => ⟨0, false⟩
  | .draw _ => { counting with segments := counting.segments + 1 }
  | .present => { counting with presented := true }

instance : Surface Counting where
  perform call counting := (.ok (), counting.after call)

@[simp] theorem perform_eq (call : Call) (counting : Counting) :
    Surface.perform call counting = (.ok (), counting.after call) := rfl

end Counting

end TurtleGraphics
