import TurtleGraphics.Proofs.Drawing.Respellings
import TurtleGraphics.Proofs.Number.Value

set_option autoImplicit false

/-!
# Mirrored drawings

Turns to the other side by the opposite angle are the same turns, rounding included: a turn to the
right is made as a turn to the left by the opposite angle, and an angle is its opposite's opposite.
-/

namespace TurtleGraphics

/-- A turn to the other side. -/
def Command.mirrored : Command → Command
  | .turnLeft => .turnRight
  | .turnRight => .turnLeft
  | command => command

/-- The turns of a text made to the other side. -/
def Respelling.mirrored : Respelling where
  symbol := fun symbol => if symbol = '+' then '-' else if symbol = '-' then '+' else symbol
  command := Command.mirrored
  ofSymbol?_symbol := by
    intro alphabet symbol
    by_cases left : symbol = '+'
    · subst left
      cases alphabet <;> rfl
    by_cases right : symbol = '-'
    · subst right
      cases alphabet <;> rfl
    rw [if_neg left, if_neg right]
    cases decoded : Command.ofSymbol? alphabet symbol with
    | none => rfl
    | some command =>
        have spelled := Command.symbol_eq_of_ofSymbol? decoded
        cases command with
        | turnLeft => exact absurd spelled.symm left
        | turnRight => exact absurd spelled.symm right
        | forward | move | push | pop => rfl
  kind_command := by
    intro command
    cases command <;> rfl

theorem Respelling.keepsWay_mirrored (delta : Float) : mirrored.KeepsWay delta (-delta) := by
  intro step turtle command
  cases command with
  | forward | move | push | pop => rfl
  | turnLeft =>
      have opposite : (turtle.cursor.apply .turnRight step (-delta)).1 =
          turtle.cursor.turn (- -delta) := rfl
      rw [Number.neg_neg] at opposite
      exact congrArg (Turtle.mk · turtle.saved) opposite
  | turnRight => rfl

namespace Turtle

theorem segments_mirrored (step delta : Float) (commands : List Command) (turtle : Turtle) :
    segments step (-delta) (commands.map Command.mirrored) turtle =
      segments step delta commands turtle := by
  induction commands generalizing turtle with
  | nil => rfl
  | cons command commands ih =>
      have led := Respelling.keepsWay_mirrored delta step turtle command
      have silent : (turtle.cursor.apply command.mirrored step (-delta)).2 =
          (turtle.cursor.apply command step delta).2 := by
        cases command <;> rfl
      rw [List.map_cons, segments, segments, silent]
      exact congrArg _ ((congrArg _ led).trans (ih (turtle.next step delta command)))

end Turtle

theorem Command.count_mirrored (commands : List Command) :
    (commands.map mirrored).count .forward = commands.count .forward := by
  induction commands with
  | nil => rfl
  | cons command commands ih => cases command <;> simp [mirrored, ih]

namespace Motion

variable (motion : Motion) (alphabet : Alphabet) (commands : String)

/-- The motion that turns by the opposite angle. -/
def mirrored : Motion :=
  { motion with delta := -motion.delta }

theorem segments_mirrored :
    motion.mirrored.segments alphabet (Respelling.mirrored.spell commands) =
      motion.segments alphabet commands := by
  rw [segments, Respelling.spell, String.toList_ofList, Respelling.commands_text]
  exact Turtle.segments_mirrored _ _ _ _

theorem outcome_mirrored :
    motion.mirrored.outcome alphabet (Respelling.mirrored.spell commands) =
      motion.outcome alphabet commands := by
  have spelled := (Respelling.keepsWay_mirrored motion.delta).outcome_spell alphabet commands
  have drawn : ((alphabet.commands commands.toList).map Respelling.mirrored.command).count
      .forward = (motion.outcome alphabet commands).tally.segments :=
    Command.count_mirrored _
  rw [drawn] at spelled
  exact spelled

end Motion

namespace Setup

/-- The setup that turns by the opposite angle. -/
def mirrored (setup : Setup) : Setup :=
  { setup with motion := setup.motion.mirrored }

/-- With all turns made to the other side by the opposite angle, every text is the same drawing. No
angle is excepted, not even zero, an infinity or NaN. -/
theorem draws_mirrored (setup : Setup) (commands : String) :
    ∃ (segments : List Segment) (outcome : Outcome),
      setup.Draws commands segments outcome ∧
      setup.mirrored.Draws (Respelling.mirrored.spell commands) segments outcome := by
  let spelled := Respelling.mirrored.spell commands
  have mirrored : setup.mirrored.Draws spelled
      (setup.motion.mirrored.segments setup.alphabet spelled)
      (setup.motion.mirrored.outcome setup.alphabet spelled) := setup.mirrored.draws spelled
  rw [setup.motion.segments_mirrored, setup.motion.outcome_mirrored] at mirrored
  exact ⟨_, _, setup.draws commands, mirrored⟩

end Setup

end TurtleGraphics
