import TurtleGraphics.Proofs.Drawing.Tallies

set_option autoImplicit false

/-!
# The smaller alphabet

The smaller alphabet draws a text as the larger one draws it without its brackets. All that it
knows of brackets is to count them as ignored.
-/

namespace TurtleGraphics

def IsBracket (symbol : Char) : Prop :=
  symbol = '[' ∨ symbol = ']'

instance (symbol : Char) : Decidable (IsBracket symbol) :=
  inferInstanceAs (Decidable (_ ∨ _))

def withoutBrackets (text : List Char) : List Char :=
  text.filter fun symbol => ¬ IsBracket symbol

theorem Command.ofSymbol?_basic (symbol : Char) :
    ofSymbol? .basic symbol =
      if IsBracket symbol then none else ofSymbol? .bracketed symbol := by
  by_cases opens : symbol = '['
  · subst opens
    rfl
  by_cases closes : symbol = ']'
  · subst closes
    rfl
  have plain : ¬ IsBracket symbol := not_or.mpr ⟨opens, closes⟩
  rw [if_neg plain]
  cases decoded : ofSymbol? .bracketed symbol with
  | some command =>
      have spelled := symbol_eq_of_ofSymbol? decoded
      obtain ⟨noPush, noPop⟩ := Alphabet.ofSymbol?_ne_push_pop opens closes decoded
      rw [← spelled, ofSymbol?_symbol_of_ne .basic noPush noPop]
  | none =>
      cases read : ofSymbol? .basic symbol with
      | none => rfl
      | some command =>
          rw [ofSymbol?_bracketed_of_basic read] at decoded
          cases decoded

namespace Alphabet

theorem commands_withoutBrackets (text : List Char) :
    bracketed.commands (withoutBrackets text) = basic.commands text := by
  rw [commands, withoutBrackets, List.filterMap_filter, commands]
  congr 1
  funext symbol
  rw [Command.ofSymbol?_basic]
  by_cases bracket : IsBracket symbol <;> simp [bracket]

theorem countP_bracket (text : List Char) :
    text.countP (fun symbol => IsBracket symbol) = text.count '[' + text.count ']' := by
  induction text with
  | nil => rfl
  | cons symbol text ih =>
      rw [List.countP_cons, List.count_cons, List.count_cons, ih]
      by_cases opens : symbol = '['
      · subst opens
        simp [IsBracket]
        omega
      · by_cases closes : symbol = ']'
        · subst closes
          simp [IsBracket]
          omega
        · simp [IsBracket, opens, closes]

/-- A foreign character of the smaller alphabet is a bracket or foreign to the larger one. -/
theorem countP_foreign_basic (text : List Char) :
    text.countP (fun symbol => (Command.ofSymbol? basic symbol).isNone) =
      (withoutBrackets text).countP (fun symbol => (Command.ofSymbol? bracketed symbol).isNone) +
        (text.count '[' + text.count ']') := by
  rw [← countP_bracket]
  induction text with
  | nil => rfl
  | cons symbol text ih =>
      rw [List.countP_cons, List.countP_cons, ih, Command.ofSymbol?_basic]
      by_cases bracket : IsBracket symbol
      · simp [withoutBrackets, bracket]
        omega
      · simp [withoutBrackets, bracket, List.countP_cons]
        omega

theorem tally_basic (text : List Char) :
    let tally := bracketed.tally (withoutBrackets text) 0
    basic.tally text 0 =
        { tally with ignored := tally.ignored + (text.count '[' + text.count ']') } ∧
      tally.unmatchedPops = 0 := by
  intro tally
  have contained := unmatchedPops_basic text 0
  have same := commands_withoutBrackets text
  have alone : bracketed.unmatchedPops (withoutBrackets text) 0 = 0 := by
    rw [unmatchedPops, same]
    exact contained
  refine ⟨?_, alone⟩
  simp only [tally, Alphabet.tally, contained, alone, same, countP_foreign_basic]

end Alphabet

namespace Setup

/-- Under the smaller alphabet a text draws what it draws without brackets under the larger one,
and ignores the brackets besides. Neither drawing ever finds a cursor missing. -/
theorem draws_withoutBrackets (setup : Setup) (commands : String) :
    let flat := { setup with alphabet := .basic }
    let branching := { setup with alphabet := .bracketed }
    let text := commands.toList
    ∃ (segments : List Segment) (outcome reduced : Outcome),
      flat.Draws commands segments outcome ∧
      branching.Draws (String.ofList (withoutBrackets text)) segments reduced ∧
      outcome.cursor = reduced.cursor ∧
      outcome.tally.segments = reduced.tally.segments ∧
      outcome.tally.moves = reduced.tally.moves ∧
      outcome.tally.turns = reduced.tally.turns ∧
      outcome.tally.unmatchedPops = 0 ∧ reduced.tally.unmatchedPops = 0 ∧
      outcome.tally.ignored = reduced.tally.ignored + (text.count '[' + text.count ']') := by
  intro flat branching text
  have full := flat.draws commands
  have reduced := branching.draws (String.ofList (withoutBrackets text))
  have same := Alphabet.commands_withoutBrackets text
  obtain ⟨counted, contained⟩ := Alphabet.tally_basic text
  have segments : setup.motion.segments .bracketed (String.ofList (withoutBrackets text)) =
      setup.motion.segments .basic commands := by
    rw [Motion.segments, String.toList_ofList, same, Motion.segments]
  have cursor : (setup.motion.outcome .bracketed (String.ofList (withoutBrackets text))).cursor =
      (setup.motion.outcome .basic commands).cursor := by
    simp only [Motion.outcome, String.toList_ofList, same, text]
  have tally : (setup.motion.outcome .bracketed (String.ofList (withoutBrackets text))).tally =
      Alphabet.bracketed.tally (withoutBrackets text) 0 := by
    rw [Motion.outcome, String.toList_ofList]
  rw [segments] at reduced
  refine ⟨_, _, _, full, reduced, cursor.symm, ?_⟩
  rw [tally, Motion.outcome, counted]
  exact ⟨rfl, rfl, rfl, contained, contained, rfl⟩

end Setup

end TurtleGraphics
