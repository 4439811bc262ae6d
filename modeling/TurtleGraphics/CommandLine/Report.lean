import TurtleGraphics.Drawing.Recording
import TurtleGraphics.Drawing.Session
import TurtleGraphics.Drawing.Written

set_option autoImplicit false

/-!
# Reports

A report is what a drawing looks like as a text: its commands, its segments in drawing order, and
what it came to.
-/

namespace TurtleGraphics.CommandLine

structure Report where
  commands : String
  segments : List Segment
  position : Point
  heading : Float
  ignored : Nat

namespace Report

def ofDrawing (commands : String) (recording : Recording) (outcome : Outcome) : Report where
  commands := commands
  segments := recording.segments.toList
  position := outcome.cursor.position
  heading := outcome.cursor.heading
  ignored := outcome.tally.ignored

def document (report : Report) : Json.Document :=
  .object [
    ("commands", .text report.commands),
    ("segments", .list (report.segments.map Segment.record.form.write)),
    ("position", Point.record.form.write report.position),
    ("heading", .number report.heading),
    ("ignored_symbols", .count report.ignored)]

/-- The text of a report, with a line end. -/
def text (report : Report) : String :=
  report.document.indented ++ "\n"

end Report

end TurtleGraphics.CommandLine
