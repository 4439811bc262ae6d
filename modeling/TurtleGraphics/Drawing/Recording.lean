import TurtleGraphics.Drawing.Surface

set_option autoImplicit false

/-!
# Recording surfaces

A surface that keeps what is drawn on it and refuses nothing.
-/

namespace TurtleGraphics

/-- The segments since the last start, in drawing order. The style is that of the last start. -/
structure Recording where
  segments : Array Segment
  style : Option Style
  presented : Bool
deriving DecidableEq, Inhabited

namespace Recording

def blank : Recording := ⟨#[], none, false⟩

/-- The recording after a call. A start forgets all that was drawn before it. -/
def after (call : Call) (recording : Recording) : Recording :=
  match call with
  | .begin style => ⟨#[], some style, false⟩
  | .draw segment => { recording with segments := recording.segments.push segment }
  | .present => { recording with presented := true }

instance : Surface Recording where
  perform call recording := (.ok (), recording.after call)

@[simp] theorem perform_eq (call : Call) (recording : Recording) :
    Surface.perform call recording = (.ok (), recording.after call) := rfl

end Recording

end TurtleGraphics
