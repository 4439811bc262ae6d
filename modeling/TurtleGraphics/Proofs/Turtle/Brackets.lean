import TurtleGraphics.Proofs.Turtle.Nesting

set_option autoImplicit false

/-!
# Matching brackets

Which brackets of a text belong together, said of the text alone, and how the cursors that are
saved while it is walked count the brackets without a partner.
-/

namespace TurtleGraphics

/-- A text in which every bracket has its partner. Other characters may stand anywhere. -/
inductive Balanced : List Char → Prop where
  | nil : Balanced []
  | other {symbol : Char} {text : List Char} :
      symbol ≠ '[' → symbol ≠ ']' → Balanced text → Balanced (symbol :: text)
  | branch {inner text : List Char} :
      Balanced inner → Balanced text → Balanced ('[' :: (inner ++ ']' :: text))

theorem Balanced.append {first second : List Char} (left : Balanced first)
    (right : Balanced second) : Balanced (first ++ second) := by
  induction left with
  | nil => exact right
  | other noOpen noClose _ ih => exact .other noOpen noClose ih
  | branch inner _ _ ih =>
      simpa only [List.cons_append, List.append_assoc] using Balanced.branch inner ih

/-- An opening bracket before this text has its partner in it. -/
def IsClosed (after : List Char) : Prop :=
  ∃ inner rest, Balanced inner ∧ after = inner ++ ']' :: rest

/-- A closing bracket after this text has its partner in it. -/
def IsOpened (before : List Char) : Prop :=
  ∃ outer inner, Balanced inner ∧ before = outer ++ '[' :: inner

/-! ### One character more -/

namespace Alphabet

theorem ofSymbol?_ne_push_pop {alphabet : Alphabet} {symbol : Char} (noOpen : symbol ≠ '[')
    (noClose : symbol ≠ ']') {command : Command}
    (decoded : Command.ofSymbol? alphabet symbol = some command) :
    command ≠ .push ∧ command ≠ .pop := by
  have spelled := Command.symbol_eq_of_ofSymbol? decoded
  constructor <;> rintro rfl
  · exact noOpen spelled.symm
  · exact noClose spelled.symm

theorem nesting_open (text : List Char) (saved : Nat) :
    bracketed.nesting ('[' :: text) saved = bracketed.nesting text (saved + 1) := rfl

theorem nesting_close (text : List Char) (saved : Nat) :
    bracketed.nesting (']' :: text) saved = bracketed.nesting text (saved - 1) := rfl

theorem nesting_other (alphabet : Alphabet) {symbol : Char} (noOpen : symbol ≠ '[')
    (noClose : symbol ≠ ']') (text : List Char) (saved : Nat) :
    alphabet.nesting (symbol :: text) saved = alphabet.nesting text saved := by
  simp only [nesting, commands, List.filterMap_cons]
  split
  · rfl
  · next command decoded =>
      obtain ⟨noPush, noPop⟩ := ofSymbol?_ne_push_pop noOpen noClose decoded
      cases command with
      | forward | move | turnLeft | turnRight => rfl
      | push => exact absurd rfl noPush
      | pop => exact absurd rfl noPop

theorem unmatchedPops_open (text : List Char) (saved : Nat) :
    bracketed.unmatchedPops ('[' :: text) saved = bracketed.unmatchedPops text (saved + 1) :=
  Nat.zero_add _

theorem unmatchedPops_close (text : List Char) (saved : Nat) :
    bracketed.unmatchedPops (']' :: text) saved =
      (if saved = 0 then 1 else 0) + bracketed.unmatchedPops text (saved - 1) := by
  have spelled : bracketed.commands (']' :: text) = .pop :: bracketed.commands text := rfl
  simp [unmatchedPops, spelled, Command.unmatchedPops, Command.height]

theorem unmatchedPops_other (alphabet : Alphabet) {symbol : Char} (noOpen : symbol ≠ '[')
    (noClose : symbol ≠ ']') (text : List Char) (saved : Nat) :
    alphabet.unmatchedPops (symbol :: text) saved = alphabet.unmatchedPops text saved := by
  simp only [unmatchedPops, commands, List.filterMap_cons]
  split
  · rfl
  · next command decoded =>
      obtain ⟨noPush, noPop⟩ := ofSymbol?_ne_push_pop noOpen noClose decoded
      cases command with
      | forward | move | turnLeft | turnRight => exact Nat.zero_add _
      | push => exact absurd rfl noPush
      | pop => exact absurd rfl noPop

end Alphabet

open Alphabet (nesting_open nesting_close nesting_other unmatchedPops_open unmatchedPops_close
  unmatchedPops_other)

/-! ### Balanced texts -/

theorem Balanced.nesting {text : List Char} (balanced : Balanced text) (saved : Nat) :
    Alphabet.bracketed.nesting text saved = saved := by
  induction balanced generalizing saved with
  | nil => rfl
  | other noOpen noClose _ ih => rw [nesting_other _ noOpen noClose, ih]
  | branch _ _ innerIH textIH =>
      rw [nesting_open, Alphabet.nesting_append, innerIH, nesting_close, textIH,
        Nat.add_sub_cancel]

theorem Balanced.unmatchedPops {text : List Char} (balanced : Balanced text) (saved : Nat) :
    Alphabet.bracketed.unmatchedPops text saved = 0 := by
  induction balanced generalizing saved with
  | nil => rfl
  | other noOpen noClose _ ih => rw [unmatchedPops_other _ noOpen noClose, ih]
  | branch inner _ innerIH textIH =>
      rw [unmatchedPops_open, Alphabet.unmatchedPops_append, innerIH, inner.nesting,
        unmatchedPops_close, textIH]
      simp

/-! ### Partners and counts -/

theorem isClosed_of_unmatchedPops :
    ∀ text : List Char, 0 < Alphabet.bracketed.unmatchedPops text 0 → IsClosed text
  | [], positive => absurd positive (by decide)
  | symbol :: text, positive => by
      by_cases opens : symbol = '['
      · subst opens
        rw [unmatchedPops_open, Alphabet.unmatchedPops, Command.unmatchedPops_add,
          ← Alphabet.unmatchedPops] at positive
        obtain ⟨inner, rest, balanced, split⟩ := isClosed_of_unmatchedPops text (by omega)
        have fewer : rest.length < text.length := by simp [split]; omega
        rw [split, Alphabet.unmatchedPops_append, balanced.unmatchedPops, balanced.nesting,
          unmatchedPops_close, Nat.zero_sub] at positive
        -- Past the partner of this bracket the same question is asked of what is left.
        obtain ⟨next, after, nextBalanced, nextSplit⟩ :=
          isClosed_of_unmatchedPops rest (by simpa using positive)
        exact ⟨'[' :: (inner ++ ']' :: next), after, .branch balanced nextBalanced,
          by simp [split, nextSplit]⟩
      by_cases closes : symbol = ']'
      · exact ⟨[], text, .nil, by rw [closes]; rfl⟩
      · rw [unmatchedPops_other _ opens closes] at positive
        obtain ⟨inner, rest, balanced, split⟩ := isClosed_of_unmatchedPops text positive
        exact ⟨symbol :: inner, rest, .other opens closes balanced, by rw [split]; rfl⟩
termination_by text => text.length

theorem isClosed_iff {text : List Char} :
    IsClosed text ↔ 0 < Alphabet.bracketed.unmatchedPops text 0 := by
  constructor
  · rintro ⟨inner, rest, balanced, rfl⟩
    rw [Alphabet.unmatchedPops_append, balanced.nesting, unmatchedPops_close]
    simp only [↓reduceIte]
    omega
  · exact isClosed_of_unmatchedPops text

theorem isOpened_of_nesting (text : List Char)
    (positive : 0 < Alphabet.bracketed.nesting text 0) : IsOpened text := by
  rcases List.eq_nil_or_concat text with rfl | ⟨front, symbol, rfl⟩
  · exact absurd positive (by decide)
  rw [List.concat_eq_append] at positive ⊢
  rw [Alphabet.nesting_append] at positive
  by_cases opens : symbol = '['
  · exact ⟨front, [], .nil, by rw [opens]⟩
  by_cases closes : symbol = ']'
  · subst closes
    rw [nesting_close] at positive
    have deeper : 1 < Alphabet.bracketed.nesting front 0 := Nat.lt_of_sub_pos positive
    obtain ⟨outer, inner, balanced, split⟩ := isOpened_of_nesting front (by omega)
    rw [split, Alphabet.nesting_append, nesting_open, balanced.nesting] at deeper
    obtain ⟨farther, next, nextBalanced, nextSplit⟩ := isOpened_of_nesting outer (by omega)
    refine ⟨farther, next ++ '[' :: (inner ++ ']' :: []),
      nextBalanced.append (.branch balanced .nil), ?_⟩
    simp [split, nextSplit]
  · rw [nesting_other _ opens closes] at positive
    obtain ⟨outer, inner, balanced, split⟩ := isOpened_of_nesting front positive
    refine ⟨outer, inner ++ [symbol], balanced.append (.other opens closes .nil), ?_⟩
    simp [split]
termination_by text.length

theorem isOpened_iff {text : List Char} :
    IsOpened text ↔ 0 < Alphabet.bracketed.nesting text 0 := by
  constructor
  · rintro ⟨outer, inner, balanced, rfl⟩
    rw [Alphabet.nesting_append, nesting_open, balanced.nesting]
    omega
  · exact isOpened_of_nesting text

theorem balanced_of_counts :
    ∀ text : List Char, Alphabet.bracketed.unmatchedPops text 0 = 0 →
      Alphabet.bracketed.nesting text 0 = 0 → Balanced text
  | [], _, _ => .nil
  | symbol :: text, contained, closed => by
      by_cases opens : symbol = '['
      · subst opens
        rw [unmatchedPops_open] at contained
        rw [nesting_open] at closed
        -- A bracket that is never closed would stay in the nesting.
        have isClosed : IsClosed text := by
          rw [isClosed_iff, Nat.pos_iff_ne_zero]
          intro alone
          have deeper := Command.nesting_add alone 1
          rw [← Alphabet.nesting, ← Alphabet.nesting] at deeper
          omega
        obtain ⟨inner, rest, balanced, split⟩ := isClosed
        have fewer : rest.length < text.length := by simp [split]; omega
        rw [split, Alphabet.unmatchedPops_append, balanced.unmatchedPops, balanced.nesting,
          unmatchedPops_close] at contained
        rw [split, Alphabet.nesting_append, balanced.nesting, nesting_close] at closed
        rw [split]
        exact .branch balanced (balanced_of_counts rest (by simpa using contained) closed)
      by_cases closes : symbol = ']'
      · subst closes
        rw [unmatchedPops_close] at contained
        simp at contained
      · rw [unmatchedPops_other _ opens closes] at contained
        rw [nesting_other _ opens closes] at closed
        exact .other opens closes (balanced_of_counts text contained closed)
termination_by text => text.length

theorem balanced_iff {text : List Char} :
    Balanced text ↔ Alphabet.bracketed.unmatchedPops text 0 = 0 ∧
      Alphabet.bracketed.nesting text 0 = 0 := by
  constructor
  · intro balanced
    exact ⟨balanced.unmatchedPops 0, balanced.nesting 0⟩
  · rintro ⟨contained, closed⟩
    exact balanced_of_counts text contained closed

instance (text : List Char) : Decidable (Balanced text) :=
  decidable_of_iff _ balanced_iff.symm

instance (text : List Char) : Decidable (IsClosed text) :=
  decidable_of_iff _ isClosed_iff.symm

instance (text : List Char) : Decidable (IsOpened text) :=
  decidable_of_iff _ isOpened_iff.symm

end TurtleGraphics
