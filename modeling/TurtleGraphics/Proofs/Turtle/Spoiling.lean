import TurtleGraphics.Proofs.Turtle.Headings
import TurtleGraphics.Proofs.Turtle.Trails

set_option autoImplicit false

/-!
# What a turtle cannot make good

A coordinate that is infinite or NaN stays so and a heading that is NaN stays NaN, until a saved
cursor is restored. A step that is not finite or has no direction spoils both coordinates.
-/

namespace TurtleGraphics

open Number

inductive Axis where
  | x
  | y

def Point.coordinate (point : Point) : Axis → Float
  | .x => point.x
  | .y => point.y

namespace Heading

/-- The part of a unit step along an axis. -/
def component (degrees : Float) : Axis → Float
  | .x => cosine degrees
  | .y => sine degrees

theorem isNaN_component {degrees : Float} (notANumber : degrees.isNaN = true) (axis : Axis) :
    (component degrees axis).isNaN = true := by
  have angle : (radians degrees).isNaN = true := isNaN_mul (.inl notANumber)
  cases axis with
  | x => simp only [component, cosine, angle, if_true]
  | y => simp only [component, sine, angle, if_true]

theorem isNaN_turn {degrees : Float} (notANumber : degrees.isNaN = true) (delta : Float) :
    (normalize (degrees + delta)).isNaN = true := by
  rw [normalize_of_not_isFinite (isFinite_of_isNaN (isNaN_add (.inl notANumber)))]
  rfl

end Heading

namespace Cursor

/-- What is lost at the earlier cursor is lost at the later one. -/
structure Spoils (earlier later : Cursor) : Prop where
  special : ∀ axis, (earlier.position.coordinate axis).isFinite = false →
    (later.position.coordinate axis).isFinite = false
  notANumber : ∀ axis, (earlier.position.coordinate axis).isNaN = true →
    (later.position.coordinate axis).isNaN = true
  directionless : earlier.heading.isNaN = true → later.heading.isNaN = true

namespace Spoils

theorem refl (cursor : Cursor) : cursor.Spoils cursor :=
  ⟨fun _ => id, fun _ => id, id⟩

theorem trans {first second third : Cursor} (spoils : first.Spoils second)
    (further : second.Spoils third) : first.Spoils third where
  special axis lost := further.special axis (spoils.special axis lost)
  notANumber axis lost := further.notANumber axis (spoils.notANumber axis lost)
  directionless lost := further.directionless (spoils.directionless lost)

end Spoils

variable (cursor : Cursor) (step : Float)

theorem coordinate_advance (axis : Axis) :
    (cursor.advance step).position.coordinate axis =
      cursor.position.coordinate axis + step * Heading.component cursor.heading axis := by
  cases axis <;> rfl

theorem spoils_advance : cursor.Spoils (cursor.advance step) where
  special axis lost := by
    rw [coordinate_advance]
    exact isFinite_add_of_special (.inl lost)
  notANumber axis lost := by
    rw [coordinate_advance]
    exact isNaN_add (.inl lost)
  directionless := id

theorem spoils_turn (delta : Float) : cursor.Spoils (cursor.turn delta) where
  special _ := id
  notANumber _ := id
  directionless lost := Heading.isNaN_turn lost delta

variable {cursor step}

/-- Even against a direction of zero, which an infinite step turns into NaN. -/
theorem isFinite_advance (special : step.isFinite = false) (axis : Axis) :
    ((cursor.advance step).position.coordinate axis).isFinite = false := by
  rw [coordinate_advance]
  exact isFinite_add_of_special (.inr (isFinite_mul_of_special (.inl special)))

theorem isNaN_advance (directionless : cursor.heading.isNaN = true) (axis : Axis) :
    ((cursor.advance step).position.coordinate axis).isNaN = true := by
  rw [coordinate_advance]
  exact isNaN_add (.inr (isNaN_mul (.inr (Heading.isNaN_component directionless axis))))

end Cursor

/-- If one end of the first segment is lost along an axis, then so are both ends of the second. -/
def Segment.Spoils (first second : Segment) : Prop :=
  ∀ axis, (first.start.coordinate axis).isFinite = false ∨
      (first.finish.coordinate axis).isFinite = false →
    (second.start.coordinate axis).isFinite = false ∧
      (second.finish.coordinate axis).isFinite = false

namespace Turtle

variable {step delta : Float} {command : Command} {commands : List Command} {turtle : Turtle}

theorem spoils_next (stays : command = .pop → turtle.saved = []) :
    turtle.cursor.Spoils (turtle.next step delta command).cursor := by
  cases command with
  | forward | move => exact turtle.cursor.spoils_advance step
  | turnLeft => exact turtle.cursor.spoils_turn delta
  | turnRight => exact turtle.cursor.spoils_turn (-delta)
  | push => exact .refl turtle.cursor
  | pop =>
      obtain ⟨cursor, saved⟩ := turtle
      have empty : saved = [] := stays rfl
      rw [empty]
      exact .refl cursor

namespace Unrestored

theorem spoils (unrestored : turtle.Unrestored step delta commands) :
    turtle.cursor.Spoils (turtle.walk step delta commands).cursor := by
  induction commands generalizing turtle with
  | nil => exact .refl turtle.cursor
  | cons command commands ih => exact (spoils_next unrestored.head).trans (ih unrestored.tail)

/-- A step spoils whatever comes after it. -/
theorem advance_spoils {before after : List Command} (steps : command = .forward ∨ command = .move)
    (unrestored : turtle.Unrestored step delta (before ++ command :: after)) :
    ((turtle.walk step delta before).cursor.advance step).Spoils
      (turtle.walk step delta (before ++ command :: after)).cursor := by
  have stepped : ((turtle.walk step delta before).next step delta command).cursor =
      (turtle.walk step delta before).cursor.advance step := by
    rcases steps with rfl | rfl <;> rfl
  rw [← stepped, walk_append]
  exact unrestored.right.tail.spoils

/-- What is lost at first is lost at both ends of each segment. -/
theorem spoils_segment (unrestored : turtle.Unrestored step delta commands) {segment : Segment}
    (drawn : segment ∈ segments step delta commands turtle) {axis : Axis}
    (lost : (turtle.cursor.position.coordinate axis).isFinite = false) :
    (segment.start.coordinate axis).isFinite = false ∧
      (segment.finish.coordinate axis).isFinite = false := by
  obtain ⟨index, listed⟩ := List.mem_iff_getElem?.mp drawn
  obtain ⟨before, after, split, -, same⟩ := exists_forward_of_getElem? listed
  rw [split] at unrestored
  have started := unrestored.left.spoils.special axis lost
  rw [same]
  exact ⟨started, ((walk step delta before turtle).cursor.spoils_advance step).special axis started⟩

theorem pairwise_segments (unrestored : turtle.Unrestored step delta commands) :
    (segments step delta commands turtle).Pairwise Segment.Spoils := by
  induction commands generalizing turtle with
  | nil => exact .nil
  | cons command commands ih =>
      have rest := ih unrestored.tail
      rw [segments]
      cases command with
      | move | turnLeft | turnRight | push | pop => exact rest
      | forward =>
          -- What is lost at either end is lost after the step, where the rest starts.
          refine .cons ?_ rest
          intro segment drawn axis lost
          refine unrestored.tail.spoils_segment drawn ?_
          rcases lost with started | finished
          · exact (turtle.cursor.spoils_advance step).special axis started
          · exact finished

end Unrestored

end Turtle

end TurtleGraphics
