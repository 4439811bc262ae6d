import TurtleGraphics.Proofs.Drawing.Unhindered
import TurtleGraphics.Proofs.Turtle.Census

set_option autoImplicit false

/-!
# What a tally says

Every count of a drawing that comes off is a count of characters of its text.
-/

namespace TurtleGraphics

namespace Alphabet

variable (alphabet : Alphabet) (text : List Char) (saved : Nat)

theorem count_forward : (alphabet.commands text).count .forward = text.count 'F' :=
  count_commands (Command.ofSymbol?_symbol_of_ne alphabet (by decide) (by decide)) text

theorem count_move : (alphabet.commands text).count .move = text.count 'f' :=
  count_commands (Command.ofSymbol?_symbol_of_ne alphabet (by decide) (by decide)) text

theorem count_turnLeft : (alphabet.commands text).count .turnLeft = text.count '+' :=
  count_commands (Command.ofSymbol?_symbol_of_ne alphabet (by decide) (by decide)) text

theorem count_turnRight : (alphabet.commands text).count .turnRight = text.count '-' :=
  count_commands (Command.ofSymbol?_symbol_of_ne alphabet (by decide) (by decide)) text

theorem count_push_basic : (basic.commands text).count .push = 0 :=
  count_commands_of_absent (fun _ decoded => (Command.ofSymbol?_basic_ne_bracket decoded).1 rfl)
    text

theorem count_pop_basic : (basic.commands text).count .pop = 0 :=
  count_commands_of_absent (fun _ decoded => (Command.ofSymbol?_basic_ne_bracket decoded).2 rfl)
    text

theorem tally_length :
    let tally := alphabet.tally text saved
    tally.ignored + tally.moves + tally.turns + (alphabet.commands text).count .push +
      (alphabet.commands text).count .pop = text.length := by
  intro tally
  have decoded := Command.length_eq (alphabet.commands text)
  have foreign := alphabet.countP_foreign_add_length text
  simp only [tally, Alphabet.tally]
  omega

end Alphabet

namespace Session

variable {σ : Type} [Surface σ]

theorem outcome_of_render {session : Session σ} {commands : String} {outcome : Outcome}
    (completed : (session.render commands).result = .ok outcome) :
    outcome = session.setup.motion.outcome session.setup.alphabet commands := by
  rw [(session.render_eq commands).1] at completed
  cases accepted : (Surface.performAll (session.setup.calls commands) session.surface).1 with
  | error failure =>
      rw [accepted] at completed
      cases completed
  | ok =>
      rw [accepted] at completed
      cases completed
      rfl

/-- Steps and turns are counted by their characters. The brackets are foreign to the smaller
alphabet. In the larger one the commands that find nothing to restore are as many as the greatest
excess of closing brackets over opening ones that the text has from its start. -/
theorem render_counts {session : Session σ} {commands : String} {outcome : Outcome}
    (completed : (session.render commands).result = .ok outcome) :
    let text := commands.toList
    let tally := outcome.tally
    tally.segments = text.count 'F' ∧
    tally.moves = text.count 'F' + text.count 'f' ∧
    tally.turns = text.count '+' + text.count '-' ∧
    (session.setup.alphabet = .basic →
      tally.unmatchedPops = 0 ∧ tally.ignored + tally.moves + tally.turns = text.length) ∧
    (session.setup.alphabet = .bracketed →
      tally.ignored + tally.moves + tally.turns + text.count '[' + text.count ']' = text.length ∧
      IsGreatestExcess text tally.unmatchedPops) := by
  intro text tally
  have counted : tally = session.setup.alphabet.tally text 0 :=
    congrArg Outcome.tally (outcome_of_render completed)
  have forward := session.setup.alphabet.count_forward text
  have move := session.setup.alphabet.count_move text
  have turnLeft := session.setup.alphabet.count_turnLeft text
  have turnRight := session.setup.alphabet.count_turnRight text
  have total := session.setup.alphabet.tally_length text 0
  rw [counted]
  refine ⟨forward, ?_, ?_, ?_, ?_⟩
  · rw [← forward, ← move]
    rfl
  · rw [← turnLeft, ← turnRight]
    rfl
  · intro basic
    rw [basic] at total ⊢
    rw [Alphabet.count_push_basic, Alphabet.count_pop_basic] at total
    exact ⟨Alphabet.unmatchedPops_basic text 0, total⟩
  · intro bracketed
    rw [bracketed] at total ⊢
    have opening : (Alphabet.bracketed.commands text).count .push = text.count '[' :=
      Alphabet.count_commands rfl text
    have closing : (Alphabet.bracketed.commands text).count .pop = text.count ']' :=
      Alphabet.count_commands rfl text
    rw [opening, closing] at total
    exact ⟨total, isGreatestExcess_unmatchedPops text⟩

/-- The first closing bracket and the last two find nothing to restore. Two characters are
foreign. -/
theorem render_counts_stray :
    let session : Session Recording := ⟨.blank, { Setup.standard with alphabet := .bracketed }⟩
    let text := "]x[F-[f]]]]é+F".toList
    ∃ outcome, (session.render "]x[F-[f]]]]é+F").result = .ok outcome ∧
      outcome.tally.segments = 2 ∧ outcome.tally.moves = 3 ∧ outcome.tally.turns = 2 ∧
      outcome.tally.ignored + 3 + 2 + 2 + 5 = text.length ∧
      outcome.tally.unmatchedPops = 3 ∧ IsGreatestExcess text 3 := by
  intro session text
  have completed := (render_of_willing (Recording.willing session.surface) "]x[F-[f]]]]é+F").1
  obtain ⟨segments, moves, turns, _, branching⟩ := render_counts completed
  obtain ⟨total, greatest⟩ := branching rfl
  have threeMoves := moves.trans (by decide : text.count 'F' + text.count 'f' = 3)
  have twoTurns := turns.trans (by decide : text.count '+' + text.count '-' = 2)
  have twoOpened : text.count '[' = 2 := by decide
  have fiveClosed : text.count ']' = 5 := by decide
  have stray : (session.setup.motion.outcome .bracketed
      "]x[F-[f]]]]é+F").tally.unmatchedPops = 3 := by decide
  rw [threeMoves, twoTurns, twoOpened, fiveClosed] at total
  rw [stray] at greatest
  exact ⟨_, completed, segments.trans (by decide), threeMoves, twoTurns, total, stray, greatest⟩

end Session

end TurtleGraphics
