import TurtleGraphics.Proofs.Drawing.Resumption
import TurtleGraphics.Proofs.Turtle.Brackets

set_option autoImplicit false

/-!
# Branches

A closed branch of a drawing adds its own segments and counts and is without any effect on what
follows it.
-/

namespace TurtleGraphics

namespace Turtle

variable (step delta : Float) {inner : List Command}

/-- The turtle returns from a branch with the cursors that it had saved before. -/
theorem walk_branch (contained : Command.unmatchedPops inner 0 = 0)
    (closed : Command.nesting inner 0 = 0) (turtle : Turtle) :
    turtle.walk step delta (.push :: (inner ++ [.pop])) = turtle := by
  have fresh : Command.unmatchedPops inner (⟨turtle.cursor, []⟩ : Turtle).saved.length = 0 :=
    contained
  have walked := walk_above step delta fresh (turtle.cursor :: turtle.saved)
  have emptied : (walk step delta inner ⟨turtle.cursor, []⟩).saved = [] := by
    apply List.eq_nil_of_length_eq_zero
    rw [length_saved_walk]
    exact closed
  have entered : turtle.next step delta .push =
      (⟨turtle.cursor, []⟩ : Turtle).above (turtle.cursor :: turtle.saved) := rfl
  rw [walk, List.foldl_cons, ← walk, walk_append, entered, walked, above, emptied]
  rfl

theorem segments_branch (contained : Command.unmatchedPops inner 0 = 0) (turtle : Turtle) :
    segments step delta (.push :: (inner ++ [.pop])) turtle =
      segments step delta inner ⟨turtle.cursor, []⟩ := by
  have fresh : Command.unmatchedPops inner (⟨turtle.cursor, []⟩ : Turtle).saved.length = 0 :=
    contained
  have drawn := segments_above step delta fresh (turtle.cursor :: turtle.saved)
  have entered : turtle.next step delta .push =
      (⟨turtle.cursor, []⟩ : Turtle).above (turtle.cursor :: turtle.saved) := rfl
  have left : ∀ last : Turtle, segments step delta [.pop] last = [] := fun _ => rfl
  rw [segments, segments_append, entered, drawn, left, List.append_nil]
  rfl

end Turtle

namespace Alphabet

theorem commands_branch (text : List Char) :
    bracketed.commands ('[' :: (text ++ [']'])) = .push :: (bracketed.commands text ++ [.pop]) := by
  have inside := commands_append bracketed text [']']
  exact congrArg (List.cons .push) inside

theorem nesting_branch {text : List Char} (balanced : Balanced text) (saved : Nat) :
    bracketed.nesting ('[' :: (text ++ [']'])) saved = saved :=
  (Balanced.branch balanced .nil).nesting saved

theorem tally_branch {text : List Char} (balanced : Balanced text) (saved : Nat) :
    bracketed.tally ('[' :: (text ++ [']'])) saved = bracketed.tally text 0 := by
  have outer := (Balanced.branch balanced .nil).unmatchedPops saved
  have inner := balanced.unmatchedPops 0
  have opening : (Command.ofSymbol? bracketed '[').isNone = false := rfl
  have closing : (Command.ofSymbol? bracketed ']').isNone = false := rfl
  simp [tally, commands_branch, outer, inner, List.countP_append, opening, closing]

end Alphabet

namespace Motion

variable (motion : Motion) {inner : String} (balanced : Balanced inner.toList)

theorem toList_branch (before after : String) :
    (before ++ "[" ++ inner ++ "]" ++ after).toList =
      before.toList ++ '[' :: (inner.toList ++ [']']) ++ after.toList := by
  simp [String.toList_append]

include balanced

theorem walk_branch (turtle : Turtle) :
    turtle.walk motion.step motion.delta
      (Alphabet.bracketed.commands ('[' :: (inner.toList ++ [']']))) = turtle := by
  rw [Alphabet.commands_branch]
  exact Turtle.walk_branch _ _ (balanced.unmatchedPops 0) (balanced.nesting 0) turtle

/-- A branch is drawn as a drawing of its own, which starts where the branch does. -/
theorem segments_inside (before : String) :
    Turtle.segments motion.step motion.delta
        (Alphabet.bracketed.commands ('[' :: (inner.toList ++ [']'])))
        (motion.walked .bracketed before) =
      (motion.resumed (motion.outcome .bracketed before).cursor).segments .bracketed inner := by
  have normal := motion.hasNormalHeadings_walked .bracketed before _ List.mem_cons_self
  have inside := Turtle.segments_branch motion.step motion.delta (balanced.unmatchedPops 0)
    (motion.walked .bracketed before)
  rw [← motion.turtle_resumed normal] at inside
  rw [Alphabet.commands_branch]
  exact inside

theorem segments_branch (before after : String) :
    let start := motion.outcome .bracketed before
    let branch := (motion.resumed start.cursor).segments .bracketed inner
    ∃ rest, motion.segments .bracketed (before ++ after) =
        motion.segments .bracketed before ++ rest ∧
      motion.segments .bracketed (before ++ "[" ++ inner ++ "]" ++ after) =
        motion.segments .bracketed before ++ branch ++ rest := by
  intro start branch
  refine ⟨Turtle.segments motion.step motion.delta (Alphabet.bracketed.commands after.toList)
    (motion.walked .bracketed before), ?_, ?_⟩
  · rw [segments, String.toList_append, Alphabet.commands_append, Turtle.segments_append]
    rfl
  · have inside := motion.segments_inside balanced before
    have left := motion.walk_branch balanced (motion.walked .bracketed before)
    rw [walked] at inside left ⊢
    rw [segments, toList_branch, Alphabet.commands_append, Alphabet.commands_append,
      Turtle.segments_append, Turtle.segments_append, Turtle.walk_append, inside, left]
    rfl

theorem outcome_branch (before after : String) :
    let start := motion.outcome .bracketed before
    let branch := (motion.resumed start.cursor).outcome .bracketed inner
    let plain := motion.outcome .bracketed (before ++ after)
    motion.outcome .bracketed (before ++ "[" ++ inner ++ "]" ++ after) =
      ⟨plain.cursor, plain.tally + branch.tally⟩ := by
  intro start branch plain
  have cursors : (motion.outcome .bracketed (before ++ "[" ++ inner ++ "]" ++ after)).cursor =
      plain.cursor := by
    rw [outcome, toList_branch, Alphabet.commands_append, Alphabet.commands_append,
      Turtle.walk_append, Turtle.walk_append, motion.walk_branch balanced, ← Turtle.walk_append,
      ← Alphabet.commands_append, ← String.toList_append]
    rfl
  have counts : (motion.outcome .bracketed (before ++ "[" ++ inner ++ "]" ++ after)).tally =
      plain.tally + branch.tally := by
    rw [outcome, toList_branch, Alphabet.tally_append, Alphabet.nesting_append,
      Alphabet.tally_append, Alphabet.nesting_branch balanced, Alphabet.tally_branch balanced,
      Tally.add_right_comm, ← Alphabet.tally_append, ← String.toList_append]
    rfl
  rw [← cursors, ← counts]

end Motion

namespace Setup

/-- Between two texts that may have brackets without a partner, also with partners in each other,
a closed branch leaves the drawing of the two as it is. Inside, it is the drawing that starts with
the cursor at which the branch is entered. -/
theorem draws_branch (setup : Setup) (branching : setup.alphabet = .bracketed) {inner : String}
    (balanced : Balanced inner.toList) (before after : String) :
    ∃ (first inside rest : List Segment) (start branch plain whole : Outcome),
      setup.Draws before first start ∧
      setup.Draws (before ++ after) (first ++ rest) plain ∧
      (Session.startCursor (setup.resumed start.cursor) = start.cursor ∧
        (setup.resumed start.cursor).Draws inner inside branch) ∧
      setup.Draws (before ++ "[" ++ inner ++ "]" ++ after) (first ++ inside ++ rest) whole ∧
      whole.cursor = plain.cursor ∧
      whole.tally = plain.tally + branch.tally ∧
      branch.tally.unmatchedPops = 0 := by
  let motion := setup.motion
  let start := motion.outcome .bracketed before
  have entered := setup.draws before
  have plain := setup.draws (before ++ after)
  have whole := setup.draws (before ++ "[" ++ inner ++ "]" ++ after)
  have inside := (setup.resumed start.cursor).draws inner
  have sameAlphabet : (setup.resumed start.cursor).alphabet = .bracketed := branching
  have normal := motion.hasNormalHeadings_walked .bracketed before _ List.mem_cons_self
  obtain ⟨rest, joined, separated⟩ := motion.segments_branch balanced before after
  have counted := motion.outcome_branch balanced before after
  rw [branching] at entered plain whole
  rw [sameAlphabet] at inside
  rw [joined] at plain
  rw [separated] at whole
  refine ⟨_, _, rest, start, _, _, _, entered, plain, ⟨?_, inside⟩, whole, ?_, ?_, ?_⟩
  · exact Cursor.facing_of_isNormal normal
  · rw [counted]
  · rw [counted]
    rfl
  · exact balanced.unmatchedPops 0

/-- The branch has a branch of its own, what is before it leaves a cursor saved, and what is after
it restores that cursor and then finds none. -/
theorem draws_branch_nested :
    let setup := { Setup.standard with alphabet := .bracketed }
    setup.alphabet = .bracketed ∧ Balanced "+F[-xF]f".toList ∧
    ∃ (first inside rest : List Segment) (start branch plain whole : Outcome),
      setup.Draws "F[+F" first start ∧
      setup.Draws "F[+FF]]-F" (first ++ rest) plain ∧
      (Session.startCursor (setup.resumed start.cursor) = start.cursor ∧
        (setup.resumed start.cursor).Draws "+F[-xF]f" inside branch) ∧
      setup.Draws "F[+F[+F[-xF]f]F]]-F" (first ++ inside ++ rest) whole ∧
      whole.cursor = plain.cursor ∧
      whole.tally = plain.tally + branch.tally ∧
      branch.tally.unmatchedPops = 0 := by
  intro setup
  have balanced : Balanced "+F[-xF]f".toList := by decide
  exact ⟨rfl, balanced, setup.draws_branch rfl balanced "F[+F" "F]]-F"⟩

end Setup

end TurtleGraphics
