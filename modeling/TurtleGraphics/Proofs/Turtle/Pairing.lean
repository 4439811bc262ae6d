import TurtleGraphics.Proofs.Turtle.Census

set_option autoImplicit false

/-!
# Texts reduced to what matters

A text without its foreign characters and without the brackets that have no partner, and the
turtle that walks it. Of all cursors that the turtle of the full text has saved, the other one
keeps only those that are going to be restored. These are the latest ones, one for each command
that the rest of the text would find nothing saved for.
-/

namespace TurtleGraphics

namespace Command

/-- A command to save that nothing restores, or a command to restore that finds nothing saved. -/
def Unpaired (command : Command) (commands : List Command) (saved : Nat) : Prop :=
  command = .push ∧ unmatchedPops commands 0 = 0 ∨ command = .pop ∧ saved = 0

instance (command : Command) (commands : List Command) (saved : Nat) :
    Decidable (command.Unpaired commands saved) :=
  inferInstanceAs (Decidable (_ ∨ _))

def paired : List Command → Nat → List Command
  | [], _ => []
  | command :: commands, saved =>
    if command.Unpaired commands saved then paired commands (height saved command)
    else command :: paired commands (height saved command)

theorem count_paired {command : Command} (noPush : command ≠ .push) (noPop : command ≠ .pop)
    (commands : List Command) (saved : Nat) :
    (paired commands saved).count command = commands.count command := by
  induction commands generalizing saved with
  | nil => rfl
  | cons head commands ih =>
      rw [paired]
      split
      next unpaired =>
        have different : head ≠ command := by
          rcases unpaired with ⟨rfl, _⟩ | ⟨rfl, _⟩
          · exact noPush.symm
          · exact noPop.symm
        rw [ih, List.count_cons_of_ne different]
      next => rw [List.count_cons, List.count_cons, ih]

theorem count_pop_paired (commands : List Command) (saved : Nat) :
    commands.count .pop = (paired commands saved).count .pop + unmatchedPops commands saved := by
  induction commands generalizing saved with
  | nil => rfl
  | cons command commands ih =>
      have rest := ih (height saved command)
      cases command with
      | forward | move | turnLeft | turnRight =>
          simpa [paired, Unpaired, unmatchedPops, height] using rest
      | push =>
          simp only [paired, unmatchedPops]
          split <;> simpa [height] using rest
      | pop =>
          cases saved with
          | zero =>
              simp [paired, Unpaired, unmatchedPops, height, ih 0]
              omega
          | succ saved =>
              simp [paired, Unpaired, unmatchedPops, height, ih saved]
              omega

/-- Nothing unpaired is left: what is restored was saved by a command that is kept. -/
theorem unmatchedPops_paired (commands : List Command) (saved : Nat) :
    unmatchedPops (paired commands saved) (min (unmatchedPops commands 0) saved) = 0 := by
  induction commands generalizing saved with
  | nil => rfl
  | cons command commands ih =>
      have rest := ih (height saved command)
      cases command with
      | forward | move | turnLeft | turnRight =>
          simpa [paired, Unpaired, unmatchedPops, height] using rest
      | push =>
          simp only [height] at rest
          rw [paired, unmatchedPops_push]
          by_cases never : unmatchedPops commands 0 = 0
          · simpa [Unpaired, never, height] using rest
          · have deeper : min (unmatchedPops commands 0 - 1) saved + 1 =
                min (unmatchedPops commands 0) (saved + 1) := by omega
            simpa [Unpaired, never, height, unmatchedPops, deeper] using rest
      | pop =>
          rw [paired, unmatchedPops_pop]
          cases saved with
          | zero => simpa [Unpaired, height] using rest
          | succ saved =>
              simp only [height, Nat.add_sub_cancel] at rest
              simpa [Unpaired, height, unmatchedPops, Nat.add_min_add_right] using rest

end Command

namespace Turtle

variable (step delta : Float)

/-- The same turtle with only those cursors saved that a row of commands restores. -/
def trim (turtle : Turtle) (commands : List Command) : Turtle :=
  ⟨turtle.cursor, turtle.saved.take (Command.unmatchedPops commands 0)⟩

theorem next_trim_of_unpaired {turtle : Turtle} {command : Command} {commands : List Command}
    (unpaired : command.Unpaired commands turtle.saved.length) :
    (turtle.next step delta command).trim commands = turtle.trim (command :: commands) := by
  obtain ⟨cursor, saved⟩ := turtle
  rcases unpaired with ⟨rfl, never⟩ | ⟨rfl, none⟩
  · simp [next, trim, never, Command.unmatchedPops_push]
  · have empty : saved = [] := List.eq_nil_of_length_eq_zero none
    simp [next, trim, empty]

theorem next_trim_of_paired {turtle : Turtle} {command : Command} {commands : List Command}
    (hasPartner : ¬ command.Unpaired commands turtle.saved.length) :
    (turtle.trim (command :: commands)).next step delta command =
      (turtle.next step delta command).trim commands := by
  obtain ⟨cursor, saved⟩ := turtle
  simp only [Command.Unpaired, not_or, not_and] at hasPartner
  cases command with
  | forward | move | turnLeft | turnRight =>
      simp [next, trim, Command.unmatchedPops, Command.height]
  | push =>
      have kept : Command.unmatchedPops commands 0 ≠ 0 := hasPartner.1 rfl
      obtain ⟨count, positive⟩ := Nat.exists_eq_succ_of_ne_zero kept
      simp [next, trim, Command.unmatchedPops_push, positive]
  | pop =>
      cases saved with
      | nil => exact absurd rfl (hasPartner.2 rfl)
      | cons restored saved => simp [next, trim, Command.unmatchedPops_pop]

/-- A dropped command draws nothing and only saves or restores what the trimmed turtle never
misses. -/
theorem segments_paired (commands : List Command) (turtle : Turtle) :
    segments step delta (Command.paired commands turtle.saved.length) (turtle.trim commands) =
      segments step delta commands turtle := by
  induction commands generalizing turtle with
  | nil => rfl
  | cons command commands ih =>
      have rest := ih (turtle.next step delta command)
      rw [length_saved_next] at rest
      rw [Command.paired]
      split
      next unpaired =>
        have silent : (turtle.cursor.apply command step delta).2 = none := by
          rcases unpaired with ⟨rfl, _⟩ | ⟨rfl, _⟩ <;> rfl
        rw [← next_trim_of_unpaired step delta unpaired, rest, segments, silent]
        rfl
      next hasPartner =>
        rw [segments, next_trim_of_paired step delta hasPartner, rest, segments]
        rfl

theorem walk_paired (commands : List Command) (turtle : Turtle) :
    (walk step delta (Command.paired commands turtle.saved.length)
      (turtle.trim commands)).cursor = (walk step delta commands turtle).cursor := by
  induction commands generalizing turtle with
  | nil => rfl
  | cons command commands ih =>
      have rest := ih (turtle.next step delta command)
      rw [length_saved_next] at rest
      rw [Command.paired]
      split
      next unpaired =>
        rw [← next_trim_of_unpaired step delta unpaired, rest]
        rfl
      next hasPartner =>
        rw [← next_trim_of_paired step delta hasPartner] at rest
        exact rest

end Turtle

/-! ### Texts -/

/-- A character that commands something and, if it is a bracket, has its partner in what stands
on its other side. -/
def IsKept (before : List Char) (symbol : Char) (after : List Char) : Prop :=
  (Command.ofSymbol? .bracketed symbol).isSome = true ∧
    (symbol = '[' → IsClosed after) ∧ (symbol = ']' → IsOpened before)

instance (before : List Char) (symbol : Char) (after : List Char) :
    Decidable (IsKept before symbol after) :=
  inferInstanceAs (Decidable (_ ∧ _))

/-- What is kept of a text that stands after another one. -/
def keptAfter (before : List Char) : List Char → List Char
  | [] => []
  | symbol :: after =>
    if IsKept before symbol after then symbol :: keptAfter (before ++ [symbol]) after
    else keptAfter (before ++ [symbol]) after

/-- A text without foreign characters and without brackets that have no partner. -/
def matchedPart (text : List Char) : List Char :=
  keptAfter [] text

namespace Alphabet

theorem isKept_iff {before after : List Char} {symbol : Char} {command : Command}
    (decoded : Command.ofSymbol? bracketed symbol = some command) :
    IsKept before symbol after ↔
      ¬ command.Unpaired (bracketed.commands after) (bracketed.nesting before 0) := by
  have spelled := Command.symbol_eq_of_ofSymbol? decoded
  subst spelled
  simp only [IsKept, decoded, isClosed_iff, isOpened_iff, Command.Unpaired, unmatchedPops]
  cases command <;> simp [Command.symbol, Nat.pos_iff_ne_zero]

theorem commands_keptAfter (before after : List Char) :
    bracketed.commands (keptAfter before after) =
      Command.paired (bracketed.commands after) (bracketed.nesting before 0) := by
  induction after generalizing before with
  | nil => rfl
  | cons symbol after ih =>
      have rest := ih (before ++ [symbol])
      rw [nesting_append] at rest
      cases decoded : Command.ofSymbol? bracketed symbol with
      | none =>
          have foreign : ¬ IsKept before symbol after := by
            intro kept
            have known := kept.1
            simp [decoded] at known
          have passed : bracketed.nesting [symbol] (bracketed.nesting before 0) =
              bracketed.nesting before 0 := by simp [nesting, commands, decoded, Command.nesting]
          rw [passed] at rest
          rw [keptAfter, if_neg foreign, rest, commands, commands, List.filterMap_cons_none decoded]
      | some command =>
          have read : bracketed.commands (symbol :: after) =
              command :: bracketed.commands after := List.filterMap_cons_some decoded
          have passed : bracketed.nesting [symbol] (bracketed.nesting before 0) =
              command.height (bracketed.nesting before 0) := by
            simp [nesting, commands, decoded, Command.nesting]
          rw [passed] at rest
          rw [keptAfter, read, Command.paired]
          by_cases kept : IsKept before symbol after
          · rw [if_pos kept, if_neg ((isKept_iff decoded).mp kept), commands,
              List.filterMap_cons_some decoded, ← rest]
            rfl
          · rw [if_neg kept, if_pos (Decidable.not_not.mp (mt (isKept_iff decoded).mpr kept)), rest]

theorem commands_matchedPart (text : List Char) :
    bracketed.commands (matchedPart text) = Command.paired (bracketed.commands text) 0 :=
  commands_keptAfter [] text

theorem count_close (text : List Char) :
    text.count ']' = (bracketed.commands text).count .pop :=
  (count_commands (Command.ofSymbol?_symbol .pop) text).symm

theorem isSome_of_mem_keptAfter {symbol : Char} {before after : List Char}
    (member : symbol ∈ keptAfter before after) :
    (Command.ofSymbol? bracketed symbol).isSome = true := by
  induction after generalizing before with
  | nil => cases member
  | cons head after ih =>
      rw [keptAfter] at member
      split at member
      next kept =>
        rcases List.mem_cons.mp member with rfl | later
        · exact kept.1
        · exact ih later
      next => exact ih member

end Alphabet

end TurtleGraphics
