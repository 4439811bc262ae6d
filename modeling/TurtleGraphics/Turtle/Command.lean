set_option autoImplicit false

/-!
# Commands and alphabets

A drawing is written as a text in which single characters are commands. The alphabet decides
whether the two brackets are commands; every other character is foreign to both alphabets.
-/

namespace TurtleGraphics

/-- The characters that are read as commands. -/
inductive Alphabet where
  | basic
  /-- Steps, turns, and the brackets that save and restore the cursor. -/
  | bracketed
deriving DecidableEq, Inhabited, Repr

inductive Command where
  | forward
  | move
  | turnLeft
  | turnRight
  | push
  | pop
deriving DecidableEq, Inhabited, Repr

namespace Command

def symbol : Command → Char
  | .forward => 'F'
  | .move => 'f'
  | .turnLeft => '+'
  | .turnRight => '-'
  | .push => '['
  | .pop => ']'

/-- The command that a character stands for, if the alphabet has it. -/
def ofSymbol? (alphabet : Alphabet) (symbol : Char) : Option Command :=
  match symbol, alphabet with
  | 'F', _ => some .forward
  | 'f', _ => some .move
  | '+', _ => some .turnLeft
  | '-', _ => some .turnRight
  | '[', .bracketed => some .push
  | ']', .bracketed => some .pop
  | _, _ => none

theorem ofSymbol?_symbol (command : Command) :
    ofSymbol? .bracketed command.symbol = some command := by
  cases command <;> rfl

theorem symbol_eq_of_ofSymbol? {alphabet : Alphabet} {symbol : Char} {command : Command}
    (read : ofSymbol? alphabet symbol = some command) : command.symbol = symbol := by
  unfold ofSymbol? at read
  split at read <;> simp_all [Command.symbol] <;> subst_vars <;> rfl

theorem ofSymbol?_basic_ne_bracket {symbol : Char} {command : Command}
    (read : ofSymbol? .basic symbol = some command) : command ≠ .push ∧ command ≠ .pop := by
  unfold ofSymbol? at read
  split at read <;> simp_all <;> subst_vars <;> simp

theorem ofSymbol?_bracketed_of_basic {symbol : Char} {command : Command}
    (read : ofSymbol? .basic symbol = some command) :
    ofSymbol? .bracketed symbol = some command := by
  rw [← symbol_eq_of_ofSymbol? read, ofSymbol?_symbol]

end Command

end TurtleGraphics
