import TurtleGraphics.Proofs.Drawing.Respellings
import TurtleGraphics.Proofs.Turtle.Trails

set_option autoImplicit false

/-!
# Pens

A step draws if it is taken with the pen down. The pen has no effect on the way of the turtle, so
the segments of a text are a selection from those of the text that has the pen down throughout.
-/

namespace TurtleGraphics

/-- Whether the pen is down at a step. All other characters are no steps. -/
def penOf? : Char → Option Bool
  | 'F' => some true
  | 'f' => some false
  | _ => none

/-- Whether the pen is down, for each step of a text. -/
def pens (text : List Char) : List Bool :=
  text.filterMap penOf?

/-- Of items that belong to the steps one by one, those at which the pen is down. -/
def atPenDown {α : Type} (pens : List Bool) (items : List α) : List α :=
  ((pens.zip items).filter Prod.fst).map Prod.snd

/-- Texts of one length with the same characters, except that some steps of the one have the other
pen in the other. -/
inductive DifferInPen : List Char → List Char → Prop where
  | nil : DifferInPen [] []
  | same (symbol : Char) {first second : List Char} :
      DifferInPen first second → DifferInPen (symbol :: first) (symbol :: second)
  | lifted {first second : List Char} :
      DifferInPen first second → DifferInPen ('F' :: first) ('f' :: second)
  | lowered {first second : List Char} :
      DifferInPen first second → DifferInPen ('f' :: first) ('F' :: second)

/-! ### Commands -/

namespace Command

def penDown : Command → Command
  | .move => .forward
  | command => command

def pen? : Command → Option Bool
  | .forward => some true
  | .move => some false
  | _ => none

theorem ofSymbol?_bind_pen? (alphabet : Alphabet) (symbol : Char) :
    (ofSymbol? alphabet symbol).bind pen? = penOf? symbol := by
  unfold ofSymbol? penOf?
  split <;> simp_all [pen?]

theorem count_penDown (commands : List Command) :
    (commands.map penDown).count .forward = (commands.filterMap pen?).length := by
  induction commands with
  | nil => rfl
  | cons command commands ih =>
      cases command with
      | forward | move => simp [penDown, pen?, ih]
      | turnLeft | turnRight | push | pop => exact ih

end Command

/-- The steps of a text taken with the pen down. -/
def Respelling.penDown : Respelling where
  symbol := fun symbol => if symbol = 'f' then 'F' else symbol
  command := Command.penDown
  ofSymbol?_symbol := by
    intro alphabet symbol
    by_cases up : symbol = 'f'
    · subst up
      cases alphabet <;> rfl
    · rw [if_neg up]
      cases decoded : Command.ofSymbol? alphabet symbol with
      | none => rfl
      | some command =>
          have spelled := Command.symbol_eq_of_ofSymbol? decoded
          cases command with
          | move => exact absurd spelled.symm up
          | forward | turnLeft | turnRight | push | pop => rfl
  kind_command := by
    intro command
    cases command <;> rfl

namespace Turtle

variable (step delta : Float)

theorem next_penDown (turtle : Turtle) (command : Command) :
    turtle.next step delta command.penDown = turtle.next step delta command := by
  cases command <;> rfl

/-- The pen selects from what is drawn with the pen down. -/
theorem segments_eq_atPenDown (commands : List Command) (turtle : Turtle) :
    segments step delta commands turtle =
      atPenDown (commands.filterMap Command.pen?)
        (segments step delta (commands.map Command.penDown) turtle) := by
  induction commands generalizing turtle with
  | nil => rfl
  | cons command commands ih =>
      have rest := ih (turtle.next step delta command)
      rw [List.map_cons, segments, segments, next_penDown, rest]
      cases command <;> rfl

end Turtle

theorem Respelling.keepsWay_penDown (delta : Float) : penDown.KeepsWay delta delta :=
  fun step turtle command => Turtle.next_penDown step delta turtle command

/-! ### Texts -/

theorem DifferInPen.text_penDown {first second : List Char} (differ : DifferInPen first second) :
    Respelling.penDown.text first = Respelling.penDown.text second := by
  induction differ with
  | nil => rfl
  | same symbol _ ih => exact congrArg (List.cons _) ih
  | lifted _ ih | lowered _ ih => exact congrArg (List.cons 'F') ih

theorem Alphabet.pens_eq (alphabet : Alphabet) (text : List Char) :
    pens text = (alphabet.commands text).filterMap Command.pen? := by
  rw [pens, commands, List.filterMap_filterMap]
  congr 1
  funext symbol
  rw [Command.ofSymbol?_bind_pen?]

namespace Motion

variable (motion : Motion) (alphabet : Alphabet)

theorem length_segments_penDown (commands : String) :
    (motion.segments alphabet (Respelling.penDown.spell commands)).length =
      (pens commands.toList).length := by
  rw [segments, Turtle.length_segments, Respelling.spell, String.toList_ofList,
    Respelling.commands_text, alphabet.pens_eq]
  exact Command.count_penDown _

theorem segments_penDown (commands : String) :
    motion.segments alphabet commands =
      atPenDown (pens commands.toList)
        (motion.segments alphabet (Respelling.penDown.spell commands)) := by
  rw [segments, segments, Respelling.spell, String.toList_ofList, Respelling.commands_text,
    alphabet.pens_eq]
  exact Turtle.segments_eq_atPenDown _ _ _ _

end Motion

namespace Setup

/-- Lifting or lowering the pen at some steps leads to the same cursor by the same steps and turns.
What is drawn is what the pen selects from the drawing with the pen down throughout, which has one
segment for each step. -/
theorem draws_differInPen (setup : Setup) {first second : String}
    (differ : DifferInPen first.toList second.toList) :
    ∃ (segments others whole : List Segment) (outcome other full : Outcome),
      setup.Draws first segments outcome ∧ setup.Draws second others other ∧
      setup.Draws (Respelling.penDown.spell first) whole full ∧
      outcome.cursor = other.cursor ∧
      outcome.tally.moves = other.tally.moves ∧
      outcome.tally.turns = other.tally.turns ∧
      outcome.tally.ignored = other.tally.ignored ∧
      outcome.tally.unmatchedPops = other.tally.unmatchedPops ∧
      whole.length = (pens first.toList).length ∧
      segments = atPenDown (pens first.toList) whole := by
  obtain ⟨motion, _, _, _, alphabet⟩ := setup
  have same : Respelling.penDown.spell first = Respelling.penDown.spell second :=
    congrArg String.ofList differ.text_penDown
  have keepsWay := Respelling.keepsWay_penDown motion.delta
  -- Both texts agree with the one that has the pen down throughout, which is the same for both.
  have agree := (keepsWay.outcome_spell alphabet first).symm.trans
    ((congrArg (motion.outcome alphabet) same).trans (keepsWay.outcome_spell alphabet second))
  obtain ⟨cursor, tallies⟩ := Outcome.mk.inj agree
  obtain ⟨_, moves, turns, ignored, unmatchedPops⟩ := Tally.mk.inj tallies
  exact ⟨_, _, _, _, _, _, draws _ first, draws _ second, draws _ _, cursor, moves, turns,
    ignored, unmatchedPops, motion.length_segments_penDown alphabet first,
    motion.segments_penDown alphabet first⟩

/-- Steps inside and outside of a branch change their pen, in both directions. -/
theorem draws_differInPen_branching :
    let setup := { Setup.standard with alphabet := .bracketed }
    DifferInPen "F[+f]xF-f]F".toList "f[+F]xF-F]f".toList ∧
    ∃ (segments others whole : List Segment) (outcome other full : Outcome),
      setup.Draws "F[+f]xF-f]F" segments outcome ∧ setup.Draws "f[+F]xF-F]f" others other ∧
      setup.Draws "F[+F]xF-F]F" whole full ∧
      outcome.cursor = other.cursor ∧ outcome.tally.moves = other.tally.moves ∧
      whole.length = 5 ∧ segments = atPenDown [true, false, true, false, true] whole := by
  intro setup
  have differ : DifferInPen "F[+f]xF-f]F".toList "f[+F]xF-F]f".toList :=
    .lifted (.same _ (.same _ (.lowered (.same _ (.same _ (.same _ (.same _ (.lowered (.same _
      (.lifted .nil))))))))))
  obtain ⟨segments, others, whole, outcome, other, full, drawn, alsoDrawn, fullyDrawn, cursor,
    moves, _, _, _, length, selected⟩ := setup.draws_differInPen differ
  exact ⟨differ, segments, others, whole, outcome, other, full, drawn, alsoDrawn, fullyDrawn,
    cursor, moves, length, selected⟩

end Setup

end TurtleGraphics
