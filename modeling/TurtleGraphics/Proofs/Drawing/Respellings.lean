import TurtleGraphics.Proofs.Drawing.Unhindered
import TurtleGraphics.Proofs.Turtle.Census

set_option autoImplicit false

/-!
# Respelled texts

A text can be spelled anew character by character, so that every command is replaced by one of its
kind. Such a text counts what the old one counts, except for the steps that draw, and it makes the
same way if no single command leads the turtle elsewhere.
-/

namespace TurtleGraphics

/-- A replacement of single characters, and the replacement of commands that it amounts to in both
alphabets. -/
structure Respelling where
  symbol : Char → Char
  command : Command → Command
  ofSymbol?_symbol : ∀ (alphabet : Alphabet) (old : Char),
    Command.ofSymbol? alphabet (symbol old) = (Command.ofSymbol? alphabet old).map command
  kind_command : ∀ old : Command, (command old).kind = old.kind

namespace Respelling

variable (respelling : Respelling)

def text (old : List Char) : List Char :=
  old.map respelling.symbol

def spell (commands : String) : String :=
  String.ofList (respelling.text commands.toList)

/-! ### Counts -/

theorem commands_text (alphabet : Alphabet) (old : List Char) :
    alphabet.commands (respelling.text old) =
      (alphabet.commands old).map respelling.command := by
  have decoded : Command.ofSymbol? alphabet ∘ respelling.symbol =
      fun symbol => (Command.ofSymbol? alphabet symbol).map respelling.command :=
    funext (respelling.ofSymbol?_symbol alphabet)
  rw [text, Alphabet.commands, List.filterMap_map, decoded, Alphabet.commands,
    List.map_filterMap]

theorem countP_map (commands : List Command) (kind : Command.Kind) :
    (commands.map respelling.command).countP (fun command => command.kind = kind) =
      commands.countP fun command => command.kind = kind := by
  rw [List.countP_map]
  congr 1
  funext command
  rw [Function.comp_apply, respelling.kind_command]

theorem unmatchedPops_map (commands : List Command) (saved : Nat) :
    Command.unmatchedPops (commands.map respelling.command) saved =
      Command.unmatchedPops commands saved := by
  induction commands generalizing saved with
  | nil => rfl
  | cons command commands ih =>
      have alike := respelling.kind_command command
      simp only [List.map_cons, Command.unmatchedPops, Command.height_of_kind alike,
        Command.eq_pop_iff, alike, ih]

theorem countP_foreign_text (alphabet : Alphabet) (old : List Char) :
    (respelling.text old).countP (fun symbol => (Command.ofSymbol? alphabet symbol).isNone) =
      old.countP fun symbol => (Command.ofSymbol? alphabet symbol).isNone := by
  rw [text, List.countP_map]
  congr 1
  funext symbol
  rw [Function.comp_apply, respelling.ofSymbol?_symbol, Option.isNone_map]

theorem tally_text (alphabet : Alphabet) (old : List Char) (saved : Nat) :
    alphabet.tally (respelling.text old) saved =
      { alphabet.tally old saved with
        segments := ((alphabet.commands old).map respelling.command).count .forward } := by
  have steps := respelling.countP_map (alphabet.commands old) .step
  have turns := respelling.countP_map (alphabet.commands old) .turn
  rw [Command.countP_step, Command.countP_step] at steps
  rw [Command.countP_turn, Command.countP_turn] at turns
  simp only [Alphabet.tally, Alphabet.unmatchedPops, respelling.commands_text,
    respelling.unmatchedPops_map, respelling.countP_foreign_text, steps, turns]

/-! ### Ways -/

/-- The new commands lead a turtle that turns by one angle wherever the old ones lead a turtle that
turns by another one. -/
def KeepsWay (delta otherDelta : Float) : Prop :=
  ∀ (step : Float) (turtle : Turtle) (old : Command),
    turtle.next step otherDelta (respelling.command old) = turtle.next step delta old

variable {respelling}

theorem KeepsWay.walk_map {delta otherDelta : Float}
    (keepsWay : respelling.KeepsWay delta otherDelta) (step : Float) (commands : List Command)
    (turtle : Turtle) :
    turtle.walk step otherDelta (commands.map respelling.command) =
      turtle.walk step delta commands := by
  induction commands generalizing turtle with
  -- Comparing the two walks without evaluating them would compare the two angles.
  | nil => simp only [Turtle.walk, List.map_nil, List.foldl_nil]
  | cons command commands ih =>
      have rest := ih (turtle.next step delta command)
      simp only [Turtle.walk] at rest
      simp only [Turtle.walk, List.map_cons, List.foldl_cons, keepsWay step turtle command, rest]

/-- Of what a drawing comes to, only the number of its segments can change. -/
theorem KeepsWay.outcome_spell {motion : Motion} {otherDelta : Float}
    (keepsWay : respelling.KeepsWay motion.delta otherDelta) (alphabet : Alphabet)
    (commands : String) :
    let outcome := motion.outcome alphabet commands
    { motion with delta := otherDelta }.outcome alphabet (respelling.spell commands) =
      ⟨outcome.cursor,
        { outcome.tally with
          segments :=
            ((alphabet.commands commands.toList).map respelling.command).count .forward }⟩ := by
  intro outcome
  have walked := keepsWay.walk_map motion.step (alphabet.commands commands.toList) motion.turtle
  rw [← respelling.commands_text] at walked
  have counted := respelling.tally_text alphabet commands.toList 0
  rw [Motion.outcome, spell, String.toList_ofList, counted]
  congr 1
  exact congrArg Turtle.cursor walked

end Respelling

end TurtleGraphics
