import TurtleGraphics.Proofs.Turtle.Brackets

set_option autoImplicit false

/-!
# What a text consists of

How often each command occurs in a text, said by its characters, and how many closing brackets find
nothing to restore, said by the beginnings of the text.
-/

namespace TurtleGraphics

theorem Command.ofSymbol?_eq_some_iff {alphabet : Alphabet} {command : Command}
    (known : ofSymbol? alphabet command.symbol = some command) {symbol : Char} :
    ofSymbol? alphabet symbol = some command ↔ symbol = command.symbol := by
  constructor
  · intro decoded
    exact (symbol_eq_of_ofSymbol? decoded).symm
  · intro spelled
    rw [spelled, known]

theorem Command.ofSymbol?_symbol_of_ne (alphabet : Alphabet) {command : Command}
    (noPush : command ≠ .push) (noPop : command ≠ .pop) :
    ofSymbol? alphabet command.symbol = some command := by
  cases command with
  | push => exact absurd rfl noPush
  | pop => exact absurd rfl noPop
  | forward | move | turnLeft | turnRight => rfl

theorem Command.length_eq (commands : List Command) :
    commands.length = commands.count .forward + commands.count .move + commands.count .turnLeft +
      commands.count .turnRight + commands.count .push + commands.count .pop := by
  induction commands with
  | nil => rfl
  | cons command commands ih =>
      rw [List.length_cons, ih]
      cases command <;> simp <;> omega

namespace Command

/-- What a command is for, apart from the pen of a step and the side of a turn. -/
inductive Kind where
  | step
  | turn
  | push
  | pop
deriving DecidableEq

def kind : Command → Kind
  | .forward | .move => .step
  | .turnLeft | .turnRight => .turn
  | .push => .push
  | .pop => .pop

theorem countP_step (commands : List Command) :
    commands.countP (fun command => command.kind = .step) =
      commands.count .forward + commands.count .move := by
  induction commands with
  | nil => rfl
  | cons command commands ih =>
      rw [List.countP_cons, ih]
      cases command <;> simp [kind] <;> omega

theorem countP_turn (commands : List Command) :
    commands.countP (fun command => command.kind = .turn) =
      commands.count .turnLeft + commands.count .turnRight := by
  induction commands with
  | nil => rfl
  | cons command commands ih =>
      rw [List.countP_cons, ih]
      cases command <;> simp [kind] <;> omega

theorem height_of_kind {command other : Command} (alike : command.kind = other.kind)
    (saved : Nat) : command.height saved = other.height saved := by
  cases command <;> cases other <;> first | rfl | cases alike

theorem eq_pop_iff (command : Command) : command = .pop ↔ command.kind = .pop := by
  cases command <;> decide

end Command

namespace Alphabet

variable {alphabet : Alphabet}

theorem count_commands {command : Command}
    (known : Command.ofSymbol? alphabet command.symbol = some command) (text : List Char) :
    (alphabet.commands text).count command = text.count command.symbol := by
  have decodes : ∀ symbol ∈ text,
      ((Command.ofSymbol? alphabet symbol).map (· == command)).getD false = true ↔
        (symbol == command.symbol) = true := by
    intro symbol _
    rw [beq_iff_eq, ← Command.ofSymbol?_eq_some_iff known]
    cases Command.ofSymbol? alphabet symbol <;> simp
  rw [commands, List.count, List.countP_filterMap, List.count]
  exact List.countP_congr decodes

theorem count_commands_of_absent {command : Command}
    (absent : ∀ symbol, Command.ofSymbol? alphabet symbol ≠ some command) (text : List Char) :
    (alphabet.commands text).count command = 0 := by
  apply List.count_eq_zero.mpr
  intro member
  obtain ⟨symbol, _, decoded⟩ := List.mem_filterMap.mp member
  exact absent symbol decoded

theorem countP_foreign_add_length (text : List Char) :
    text.countP (fun symbol => (Command.ofSymbol? alphabet symbol).isNone) +
      (alphabet.commands text).length = text.length := by
  have split := List.length_eq_countP_add_countP
    (fun symbol => (Command.ofSymbol? alphabet symbol).isNone) (l := text)
  rw [commands, List.length_filterMap_eq_countP, split]
  congr 2
  funext symbol
  cases Command.ofSymbol? alphabet symbol <;> rfl

end Alphabet

/-- Some beginning of the text has this many closing brackets more than opening ones, and none has
a greater excess. -/
def IsGreatestExcess (text : List Char) (excess : Nat) : Prop :=
  (∃ before, before <+: text ∧ before.count ']' = before.count '[' + excess) ∧
    ∀ before, before <+: text → before.count ']' ≤ before.count '[' + excess

theorem forall_prefix_cons {symbol : Char} {text : List Char} {holds : List Char → Prop}
    (empty : holds []) (more : ∀ before, before <+: text → holds (symbol :: before)) :
    ∀ before, before <+: symbol :: text → holds before := by
  intro before begins
  obtain none | ⟨rest, spelled, restBegins⟩ := List.prefix_cons_iff.mp begins
  · rw [none]
    exact empty
  · rw [spelled]
    exact more rest restBegins

namespace IsGreatestExcess

variable {text : List Char} {excess : Nat}

theorem nil : IsGreatestExcess [] 0 := by
  refine ⟨⟨[], List.nil_prefix, rfl⟩, ?_⟩
  intro before begins
  rw [List.prefix_nil.mp begins]
  exact Nat.zero_le _

theorem closed (greatest : IsGreatestExcess text excess) :
    IsGreatestExcess (']' :: text) (excess + 1) := by
  obtain ⟨⟨reached, begins, reaches⟩, bounds⟩ := greatest
  constructor
  · refine ⟨']' :: reached, List.cons_prefix_cons.mpr ⟨rfl, begins⟩, ?_⟩
    rw [List.count_cons_self, List.count_cons_of_ne (by decide), reaches, Nat.add_assoc]
  · refine forall_prefix_cons (Nat.zero_le _) ?_
    intro before begins
    have bound := bounds before begins
    rw [List.count_cons_self, List.count_cons_of_ne (by decide)]
    omega

/-- An opening bracket makes up for one closing bracket, if there is one too many behind it. -/
theorem opened (greatest : IsGreatestExcess text excess) :
    IsGreatestExcess ('[' :: text) (excess - 1) := by
  obtain ⟨⟨reached, begins, reaches⟩, bounds⟩ := greatest
  constructor
  · cases excess with
    | zero => exact ⟨[], List.nil_prefix, rfl⟩
    | succ excess =>
        refine ⟨'[' :: reached, List.cons_prefix_cons.mpr ⟨rfl, begins⟩, ?_⟩
        rw [List.count_cons_self, List.count_cons_of_ne (by decide), reaches]
        omega
  · refine forall_prefix_cons (Nat.zero_le _) ?_
    intro before begins
    have bound := bounds before begins
    rw [List.count_cons_self, List.count_cons_of_ne (by decide)]
    omega

theorem other {symbol : Char} (noOpen : symbol ≠ '[') (noClose : symbol ≠ ']')
    (greatest : IsGreatestExcess text excess) : IsGreatestExcess (symbol :: text) excess := by
  obtain ⟨⟨reached, begins, reaches⟩, bounds⟩ := greatest
  constructor
  · refine ⟨symbol :: reached, List.cons_prefix_cons.mpr ⟨rfl, begins⟩, ?_⟩
    rwa [List.count_cons_of_ne noClose, List.count_cons_of_ne noOpen]
  · refine forall_prefix_cons (Nat.zero_le _) ?_
    intro before begins
    rw [List.count_cons_of_ne noClose, List.count_cons_of_ne noOpen]
    exact bounds before begins

end IsGreatestExcess

/-- A closing bracket finds nothing to restore just where the excess reaches a new height. -/
theorem isGreatestExcess_unmatchedPops (text : List Char) :
    IsGreatestExcess text (Alphabet.bracketed.unmatchedPops text 0) := by
  induction text with
  | nil => exact .nil
  | cons symbol text ih =>
      by_cases opens : symbol = '['
      · subst opens
        have lower : Alphabet.bracketed.unmatchedPops ('[' :: text) 0 =
            Alphabet.bracketed.unmatchedPops text 0 - 1 :=
          Command.unmatchedPops_push (Alphabet.bracketed.commands text)
        rw [lower]
        exact ih.opened
      by_cases closes : symbol = ']'
      · subst closes
        have higher : Alphabet.bracketed.unmatchedPops (']' :: text) 0 =
            Alphabet.bracketed.unmatchedPops text 0 + 1 :=
          Command.unmatchedPops_pop (Alphabet.bracketed.commands text)
        rw [higher]
        exact ih.closed
      · rw [Alphabet.unmatchedPops_other _ opens closes]
        exact ih.other opens closes

end TurtleGraphics
