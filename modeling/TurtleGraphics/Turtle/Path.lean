import TurtleGraphics.Turtle.Cursor

set_option autoImplicit false

/-!
# Paths

The way of a turtle, without any surface to draw on: where it stands after a row of commands, what
cursors it has saved by then, and which segments it has drawn.
-/

namespace TurtleGraphics

/-- A turtle with its saved cursors, the latest first. -/
structure Turtle where
  cursor : Cursor
  saved : List Cursor
deriving DecidableEq, Inhabited

namespace Turtle

/-- The turtle after a command. Restoring without a saved cursor changes nothing. -/
def next (step delta : Float) (turtle : Turtle) (command : Command) : Turtle :=
  match command with
  | .push => ⟨turtle.cursor, turtle.cursor :: turtle.saved⟩
  | .pop =>
    match turtle.saved with
    | cursor :: saved => ⟨cursor, saved⟩
    | [] => turtle
  | _ => { turtle with cursor := (turtle.cursor.apply command step delta).1 }

def walk (step delta : Float) (commands : List Command) (turtle : Turtle) : Turtle :=
  commands.foldl (next step delta) turtle

/-- The segments that a row of commands draws, in drawing order. -/
def segments (step delta : Float) : List Command → Turtle → List Segment
  | [], _ => []
  | command :: commands, turtle =>
    (turtle.cursor.apply command step delta).2.toList ++
      segments step delta commands (turtle.next step delta command)

theorem walk_append (step delta : Float) (first second : List Command) (turtle : Turtle) :
    walk step delta (first ++ second) turtle =
      walk step delta second (walk step delta first turtle) :=
  List.foldl_append

/-- What no single command puts an end to lasts for the whole walk. -/
theorem walk_keeps {step delta : Float} {holds : Turtle → Prop}
    (kept : ∀ turtle command, holds turtle → holds (turtle.next step delta command))
    (commands : List Command) {turtle : Turtle} (held : holds turtle) :
    holds (turtle.walk step delta commands) := by
  induction commands generalizing turtle with
  | nil => exact held
  | cons command commands ih => exact ih (kept turtle command held)

theorem segments_append (step delta : Float) (first second : List Command) (turtle : Turtle) :
    segments step delta (first ++ second) turtle =
      segments step delta first turtle ++
        segments step delta second (walk step delta first turtle) := by
  induction first generalizing turtle with
  | nil => rfl
  | cons command commands ih =>
      simp only [List.cons_append, segments, ih, List.append_assoc]
      rfl

end Turtle

/-- The commands that a text holds, in order. Other characters are passed over. -/
def Alphabet.commands (alphabet : Alphabet) (text : List Char) : List Command :=
  text.filterMap (Command.ofSymbol? alphabet)

end TurtleGraphics
