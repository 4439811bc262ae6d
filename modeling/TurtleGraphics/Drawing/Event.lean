import TurtleGraphics.Drawing.Setup
import TurtleGraphics.Number.Layout

set_option autoImplicit false

/-!
# Events

What a drawing reports about itself while it is made. Events are causes; their level, wording and
fields are functions of them, and so is the line that a log has for each.
-/

namespace TurtleGraphics

/-- How much an event matters, from the least. -/
inductive Level where
  | trace
  | debug
  | info
  | warn
  | error
deriving DecidableEq, Inhabited, Repr

namespace Level

def name : Level → String
  | .trace => "TRACE"
  | .debug => "DEBUG"
  | .info => "INFO"
  | .warn => "WARN"
  | .error => "ERROR"

def rank : Level → Nat
  | .trace => 0
  | .debug => 1
  | .info => 2
  | .warn => 3
  | .error => 4

end Level

inductive Event where
  /-- A drawing starts. The length of its commands counts bytes, and the heading is normalized. -/
  | renderStart (length : Nat) (step delta heading : Float) (alphabet : Alphabet)
  | ignoredSymbol (symbol : Char)
  | unmatchedPop
  | renderDone (segments ignored : Nat) (x y heading : Float)
  /-- A program finished a drawing. -/
  | rendered (segments ignored : Nat) (x y heading : Float)
  /-- A program has no window to draw in. -/
  | noWindow
deriving DecidableEq

inductive FieldValue where
  | count (value : Nat)
  | number (value : Float)
  | text (value : String)
deriving DecidableEq

/-- Positional from `0.0001` up to sixteen digits before the point, else with an exponent that has
no plus sign; a half goes up. -/
def logLayout : Number.Layout := ⟨-4, 15, false, .up⟩

def FieldValue.logText : FieldValue → String
  | .count value => toString value
  | .number value => logLayout.write value
  | .text value => value

def Alphabet.eventName : Alphabet → String
  | .basic => "Basic"
  | .bracketed => "Bracketed"

namespace Event

def level : Event → Level
  | .renderStart .. => .debug
  | .ignoredSymbol _ => .trace
  | .unmatchedPop => .warn
  | .renderDone .. => .debug
  | .rendered .. => .info
  | .noWindow => .warn

def message : Event → String
  | .renderStart .. => "render start"
  | .ignoredSymbol _ => "ignored symbol"
  | .unmatchedPop => "pop with no saved cursor"
  | .renderDone .. => "render done"
  | .rendered .. => "rendered"
  | .noWindow => "built without the `gtk4-adapter` feature, printing segments instead"

private def outcomeFields (segments ignored : Nat) (x y heading : Float) :
    List (String × FieldValue) :=
  [("segments", .count segments), ("ignored", .count ignored), ("x", .number x),
    ("y", .number y), ("heading", .number heading)]

/-- The fields of an event in writing order. -/
def fields : Event → List (String × FieldValue)
  | .renderStart length step delta heading alphabet =>
    [("len", .count length), ("step", .number step), ("delta", .number delta),
      ("heading", .number heading), ("symbol_set", .text alphabet.eventName)]
  | .ignoredSymbol symbol => [("symbol", .text (String.singleton symbol))]
  | .unmatchedPop => []
  | .renderDone segments ignored x y heading => outcomeFields segments ignored x y heading
  | .rendered segments ignored x y heading => outcomeFields segments ignored x y heading
  | .noWindow => []

/-- The line of an event in a log: the level, flush right in five columns, the wording and the
fields. -/
def logLine (event : Event) : String :=
  let level := event.level.name
  let indent := String.ofList (List.replicate (5 - level.length) ' ')
  let fields := event.fields.map fun field => " " ++ field.1 ++ "=" ++ field.2.logText
  indent ++ level ++ " " ++ event.message ++ String.join fields

end Event

/-- The lines of a log that shows events from a level upwards, or none at all. -/
def logLines (threshold : Option Level) (events : List Event) : List String :=
  match threshold with
  | none => []
  | some level =>
    (events.filter fun event => level.rank ≤ event.level.rank).map Event.logLine

end TurtleGraphics
