import TurtleGraphics.Turtle.Path

set_option autoImplicit false

/-!
# Nesting of branches

How many cursors are saved while a row of commands is walked, and what a row of commands cannot
see: the cursors that were saved below those it restores.
-/

namespace TurtleGraphics

namespace Command

/-- How many cursors are saved after a command. -/
def height (saved : Nat) : Command → Nat
  | .push => saved + 1
  | .pop => saved - 1
  | _ => saved

/-- How many cursors are saved after a row of commands. -/
def nesting (commands : List Command) (saved : Nat) : Nat :=
  commands.foldl height saved

/-- How many of the commands to restore the cursor find none saved. -/
def unmatchedPops : List Command → Nat → Nat
  | [], _ => 0
  | command :: commands, saved =>
    (if command = .pop ∧ saved = 0 then 1 else 0) + unmatchedPops commands (height saved command)

theorem nesting_append (first second : List Command) (saved : Nat) :
    nesting (first ++ second) saved = nesting second (nesting first saved) :=
  List.foldl_append

theorem unmatchedPops_append (first second : List Command) (saved : Nat) :
    unmatchedPops (first ++ second) saved =
      unmatchedPops first saved + unmatchedPops second (nesting first saved) := by
  induction first generalizing saved with
  | nil => simp [unmatchedPops, nesting]
  | cons command commands ih =>
      simp only [List.cons_append, unmatchedPops, ih, nesting, List.foldl_cons, Nat.add_assoc]

/-- Every cursor saved beforehand serves one command that would have found none. -/
theorem unmatchedPops_add (commands : List Command) (saved more : Nat) :
    unmatchedPops commands (saved + more) = unmatchedPops commands saved - more := by
  induction commands generalizing saved more with
  | nil => simp [unmatchedPops]
  | cons command commands ih =>
      cases command with
      | forward | move | turnLeft | turnRight => simpa [unmatchedPops, height] using ih saved more
      | push =>
          have shifted := ih (saved + 1) more
          rw [Nat.add_right_comm] at shifted
          simpa [unmatchedPops, height] using shifted
      | pop =>
          cases saved with
          | succ saved =>
              have shifted := ih saved more
              simpa [unmatchedPops, height, Nat.add_right_comm] using shifted
          | zero =>
              cases more with
              | zero => simp
              | succ more =>
                  have shifted := ih 0 more
                  rw [Nat.zero_add] at shifted
                  simp [unmatchedPops, height, shifted]
                  omega

theorem unmatchedPops_push (commands : List Command) :
    unmatchedPops (.push :: commands) 0 = unmatchedPops commands 0 - 1 := by
  rw [← unmatchedPops_add]
  exact Nat.zero_add _

theorem unmatchedPops_pop (commands : List Command) :
    unmatchedPops (.pop :: commands) 0 = unmatchedPops commands 0 + 1 :=
  Nat.add_comm 1 _

/-- Commands that never restore a cursor saved before them leave those as they are. -/
theorem nesting_add {commands : List Command} {saved : Nat}
    (contained : unmatchedPops commands saved = 0) (more : Nat) :
    nesting commands (saved + more) = nesting commands saved + more := by
  induction commands generalizing saved with
  | nil => rfl
  | cons command commands ih =>
      simp only [unmatchedPops, Nat.add_eq_zero_iff] at contained
      obtain ⟨served, rest⟩ := contained
      have shifted := ih rest
      simp only [nesting, List.foldl_cons] at shifted ⊢
      cases command with
      | forward | move | turnLeft | turnRight => exact shifted
      | push => rw [← shifted]; simp only [height, Nat.add_right_comm]
      | pop =>
          have positive : saved ≠ 0 := by intro none; simp [none] at served
          rw [← shifted]
          simp only [height]
          congr 1
          omega

end Command

namespace Alphabet

variable (alphabet : Alphabet)

theorem commands_append (first second : List Char) :
    alphabet.commands (first ++ second) = alphabet.commands first ++ alphabet.commands second :=
  List.filterMap_append

def nesting (text : List Char) (saved : Nat) : Nat :=
  Command.nesting (alphabet.commands text) saved

def unmatchedPops (text : List Char) (saved : Nat) : Nat :=
  Command.unmatchedPops (alphabet.commands text) saved

theorem nesting_append (first second : List Char) (saved : Nat) :
    alphabet.nesting (first ++ second) saved =
      alphabet.nesting second (alphabet.nesting first saved) := by
  simp only [nesting, commands_append, Command.nesting_append]

theorem unmatchedPops_append (first second : List Char) (saved : Nat) :
    alphabet.unmatchedPops (first ++ second) saved =
      alphabet.unmatchedPops first saved +
        alphabet.unmatchedPops second (alphabet.nesting first saved) := by
  simp only [unmatchedPops, nesting, commands_append, Command.unmatchedPops_append]

theorem unmatchedPops_basic (text : List Char) (saved : Nat) :
    basic.unmatchedPops text saved = 0 := by
  have noPop : ∀ command ∈ basic.commands text, command ≠ .pop := by
    intro command member
    obtain ⟨symbol, _, decoded⟩ := List.mem_filterMap.mp member
    exact (Command.ofSymbol?_basic_ne_bracket decoded).2
  rw [unmatchedPops]
  generalize basic.commands text = commands at noPop
  induction commands generalizing saved with
  | nil => rfl
  | cons command commands ih =>
      obtain ⟨head, tail⟩ := List.forall_mem_cons.mp noPop
      rw [Command.unmatchedPops, ih _ tail, if_neg fun both => head both.1]

end Alphabet

namespace Turtle

variable (step delta : Float)

theorem length_saved_next (turtle : Turtle) (command : Command) :
    (turtle.next step delta command).saved.length = command.height turtle.saved.length := by
  cases command with
  | forward | move | turnLeft | turnRight | push => rfl
  | pop =>
      obtain ⟨cursor, saved⟩ := turtle
      cases saved <;> rfl

theorem length_saved_walk (commands : List Command) (turtle : Turtle) :
    (walk step delta commands turtle).saved.length =
      Command.nesting commands turtle.saved.length := by
  induction commands generalizing turtle with
  | nil => rfl
  | cons command commands ih =>
      have walked := ih (turtle.next step delta command)
      rw [length_saved_next] at walked
      exact walked

/-- The same turtle with further cursors saved before its own. -/
def above (turtle : Turtle) (outer : List Cursor) : Turtle :=
  ⟨turtle.cursor, turtle.saved ++ outer⟩

theorem next_above {turtle : Turtle} {command : Command}
    (served : ¬ (command = .pop ∧ turtle.saved.length = 0)) (outer : List Cursor) :
    (turtle.above outer).next step delta command =
      (turtle.next step delta command).above outer := by
  cases command with
  | forward | move | turnLeft | turnRight | push => rfl
  | pop =>
      obtain ⟨cursor, saved⟩ := turtle
      cases saved with
      | nil => exact absurd ⟨rfl, rfl⟩ served
      | cons restored saved => rfl

/-- What commands do to a turtle is independent of the cursors that they never restore. -/
theorem walk_above {commands : List Command} {turtle : Turtle}
    (contained : Command.unmatchedPops commands turtle.saved.length = 0) (outer : List Cursor) :
    walk step delta commands (turtle.above outer) =
      (walk step delta commands turtle).above outer := by
  induction commands generalizing turtle with
  | nil => rfl
  | cons command commands ih =>
      simp only [Command.unmatchedPops, Nat.add_eq_zero_iff, ite_eq_right_iff,
        Nat.one_ne_zero, imp_false] at contained
      obtain ⟨served, rest⟩ := contained
      rw [← length_saved_next step delta] at rest
      simp only [walk, List.foldl_cons, next_above step delta served]
      exact ih rest

theorem segments_above {commands : List Command} {turtle : Turtle}
    (contained : Command.unmatchedPops commands turtle.saved.length = 0) (outer : List Cursor) :
    segments step delta commands (turtle.above outer) = segments step delta commands turtle := by
  induction commands generalizing turtle with
  | nil => rfl
  | cons command commands ih =>
      simp only [Command.unmatchedPops, Nat.add_eq_zero_iff, ite_eq_right_iff,
        Nat.one_ne_zero, imp_false] at contained
      obtain ⟨served, rest⟩ := contained
      rw [← length_saved_next step delta] at rest
      simp only [segments, next_above step delta served, ih rest]
      rfl

end Turtle

end TurtleGraphics
