import TurtleGraphics.Drawing.Surface
import TurtleGraphics.Json.Layout

set_option autoImplicit false

/-!
# Journal surfaces

A surface that notes every call it is given and refuses the calls it was told to refuse. It serves
to watch a drawing being made, and to see what becomes of one that is interrupted.
-/

namespace TurtleGraphics

/-- Which call of each kind is to be refused, counted from one over the whole life of a surface. -/
structure Refusals where
  begin : Option Nat
  draw : Option Nat
  present : Option Nat
deriving DecidableEq, Inhabited

/-- All calls so far, refused ones included, and how many there were of each kind. -/
structure Journal where
  refusals : Refusals
  calls : Array Call
  begun : Nat
  drawn : Nat
  presented : Nat
deriving DecidableEq, Inhabited

def Call.note : Call → String
  | .begin style => "begin " ++ Json.numberLayout.write style.width
  | .draw segment =>
    let pair (point : Point) :=
      Json.numberLayout.write point.x ++ "," ++ Json.numberLayout.write point.y
    "draw " ++ pair segment.start ++ " " ++ pair segment.finish
  | .present => "present"

namespace Journal

def blank (refusals : Refusals) : Journal := ⟨refusals, #[], 0, 0, 0⟩

def after (call : Call) (journal : Journal) : Journal :=
  let noted := { journal with calls := journal.calls.push call }
  match call with
  | .begin _ => { noted with begun := noted.begun + 1 }
  | .draw _ => { noted with drawn := noted.drawn + 1 }
  | .present => { noted with presented := noted.presented + 1 }

/-- Whether the call that was noted last is to be refused. -/
def refuses (call : Call) (journal : Journal) : Bool :=
  match call with
  | .begin _ => journal.refusals.begin == some journal.begun
  | .draw _ => journal.refusals.draw == some journal.drawn
  | .present => journal.refusals.present == some journal.presented

instance : Surface Journal where
  perform call journal :=
    let noted := journal.after call
    if noted.refuses call then (.error (.surface (call.note ++ " failed")), noted)
    else (.ok (), noted)

end Journal

end TurtleGraphics
