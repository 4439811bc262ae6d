import TurtleGraphics.Drawing.Failure
import TurtleGraphics.Drawing.Style
import TurtleGraphics.Geometry.Point

set_option autoImplicit false

/-!
# Drawing surfaces

A surface takes three kinds of call. It may refuse any of them, for reasons of its own, and it may
change even by a call that it refuses.
-/

namespace TurtleGraphics

inductive Call where
  | begin (style : Style)
  | draw (segment : Segment)
  | present
deriving DecidableEq

/-- A type of surfaces, given by what each call does to a surface. -/
class Surface (σ : Type) where
  /-- The answer to a call, and the surface after it. -/
  perform : Call → σ → Except Failure Unit × σ

/-- A surface that somebody lends. What is drawn on it is found on the lender's surface. -/
structure Lent (σ : Type) where
  surface : σ
deriving DecidableEq, Inhabited

instance {σ : Type} [Surface σ] : Surface (Lent σ) where
  perform call lent :=
    let (answer, surface) := Surface.perform call lent.surface
    (answer, ⟨surface⟩)

/-- Performs calls in order up to the first one that is refused. -/
def Surface.performAll {σ : Type} [Surface σ] : List Call → σ → Except Failure Unit × σ
  | [], surface => (.ok (), surface)
  | call :: calls, surface =>
    match Surface.perform call surface with
    | (.ok (), next) => performAll calls next
    | (.error failure, stopped) => (.error failure, stopped)

theorem Surface.performAll_append_of_ok {σ : Type} [Surface σ] {first second : List Call}
    {surface next : σ} (accepted : performAll first surface = (.ok (), next)) :
    performAll (first ++ second) surface = performAll second next := by
  induction first generalizing surface with
  | nil => cases accepted; rfl
  | cons call calls ih =>
      simp only [performAll, List.cons_append] at accepted ⊢
      split at accepted
      · exact ih accepted
      · cases accepted

theorem Surface.performAll_append_of_error {σ : Type} [Surface σ] {first second : List Call}
    {surface stopped : σ} {failure : Failure}
    (refused : performAll first surface = (.error failure, stopped)) :
    performAll (first ++ second) surface = (.error failure, stopped) := by
  induction first generalizing surface with
  | nil => cases refused
  | cons call calls ih =>
      simp only [performAll, List.cons_append] at refused ⊢
      split at refused
      · exact ih refused
      · exact refused

end TurtleGraphics
