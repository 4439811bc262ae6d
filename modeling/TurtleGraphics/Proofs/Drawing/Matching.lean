import TurtleGraphics.Proofs.Drawing.Unhindered
import TurtleGraphics.Proofs.Turtle.Pairing

set_option autoImplicit false

/-!
# Drawings without their stray characters

Foreign characters and brackets without a partner can be taken out of a text, and the same drawing
remains.
-/

namespace TurtleGraphics

theorem Alphabet.tally_matchedPart (text : List Char) :
    bracketed.tally (matchedPart text) 0 =
      { bracketed.tally text 0 with ignored := 0, unmatchedPops := 0 } := by
  have reduced := commands_matchedPart text
  have known : ∀ symbol ∈ matchedPart text,
      ¬ (Command.ofSymbol? bracketed symbol).isNone = true := by
    intro symbol member foreign
    have decoded := isSome_of_mem_keptAfter member
    rw [Option.isNone_iff_eq_none.mp foreign] at decoded
    cases decoded
  have contained := Command.unmatchedPops_paired (bracketed.commands text) 0
  rw [Nat.min_zero] at contained
  have counted : ∀ command : Command, command ≠ .push → command ≠ .pop →
      (Command.paired (bracketed.commands text) 0).count command =
        (bracketed.commands text).count command :=
    fun command noPush noPop => Command.count_paired noPush noPop _ 0
  simp only [tally, reduced, unmatchedPops, contained, List.countP_eq_zero.mpr known]
  rw [counted .forward (by decide) (by decide), counted .move (by decide) (by decide),
    counted .turnLeft (by decide) (by decide), counted .turnRight (by decide) (by decide)]

namespace Motion

variable (motion : Motion) (text : List Char)

theorem segments_matchedPart :
    motion.segments .bracketed (String.ofList (matchedPart text)) =
      motion.segments .bracketed (String.ofList text) := by
  have drawn := Turtle.segments_paired motion.step motion.delta
    (Alphabet.bracketed.commands text) motion.turtle
  simpa [segments, Alphabet.commands_matchedPart, Turtle.trim, turtle] using drawn

theorem outcome_matchedPart :
    motion.outcome .bracketed (String.ofList (matchedPart text)) =
      let outcome := motion.outcome .bracketed (String.ofList text)
      ⟨outcome.cursor, { outcome.tally with ignored := 0, unmatchedPops := 0 }⟩ := by
  have walked := Turtle.walk_paired motion.step motion.delta
    (Alphabet.bracketed.commands text) motion.turtle
  simp only [outcome, String.toList_ofList, Alphabet.tally_matchedPart,
    Alphabet.commands_matchedPart, Outcome.mk.injEq, and_true]
  simpa [Turtle.trim, turtle] using walked

end Motion

namespace Setup

/-- Under the larger alphabet, a text and what is kept of it are the same drawing. The closing
brackets that are not kept are the ones that found no cursor saved. -/
theorem draws_matchedPart (setup : Setup) (branching : setup.alphabet = .bracketed)
    (commands : String) :
    ∃ segments outcome,
      setup.Draws commands segments outcome ∧
      setup.Draws (String.ofList (matchedPart commands.toList)) segments
        ⟨outcome.cursor, { outcome.tally with ignored := 0, unmatchedPops := 0 }⟩ ∧
      commands.toList.count ']' =
        (matchedPart commands.toList).count ']' + outcome.tally.unmatchedPops := by
  have full := setup.draws commands
  have reduced := setup.draws (String.ofList (matchedPart commands.toList))
  rw [branching] at full reduced
  rw [Motion.segments_matchedPart, Motion.outcome_matchedPart, String.ofList_toList] at reduced
  refine ⟨_, _, full, reduced, ?_⟩
  rw [Alphabet.count_close, Alphabet.count_close, Alphabet.commands_matchedPart]
  exact Command.count_pop_paired _ 0

/-- One foreign character, two stray closing brackets and an opening one that is never closed. -/
theorem draws_matchedPart_stray :
    let setup := { Setup.standard with alphabet := .bracketed }
    let commands := "F]x[F[+F]]]f[-F"
    setup.alphabet = .bracketed ∧ matchedPart commands.toList = "F[F[+F]]f-F".toList ∧
    ∃ segments outcome,
      setup.Draws commands segments outcome ∧
      setup.Draws (String.ofList (matchedPart commands.toList)) segments
        ⟨outcome.cursor, { outcome.tally with ignored := 0, unmatchedPops := 0 }⟩ ∧
      commands.toList.count ']' =
        (matchedPart commands.toList).count ']' + outcome.tally.unmatchedPops := by
  intro setup commands
  exact ⟨rfl, by decide, draws_matchedPart setup rfl commands⟩

end Setup

end TurtleGraphics
