import TurtleGraphics.Proofs.Drawing.Tallies
import TurtleGraphics.Proofs.Turtle.Residues

set_option autoImplicit false

/-!
# Headings in whole degrees

Whole degrees are turned without rounding. However often a heading is wrapped on the way, it is the
residue of what all turns add up to, so only the balance of left and right turns matters and not
their order.
-/

namespace TurtleGraphics

open Number

namespace Heading

/-- The residue of a whole angle is whole and short, so it needs no rounding. -/
theorem standsFor_normalize {degrees : Float} {whole : Int} (stands : StandsFor degrees whole) :
    StandsFor (normalize degrees) ((whole % fullTurn : Int) : ℚ) := by
  have notNegative : 0 ≤ whole % fullTurn := Int.emod_nonneg whole (by decide)
  have below : whole % fullTurn < fullTurn := Int.emod_lt_of_pos whole (by decide)
  have short : |whole % fullTurn| < 2 ^ 53 := by
    rw [abs_of_nonneg notNegative]
    exact below.trans (by decide)
  have unrounded : nearestMagnitude ((whole % fullTurn : Int) : ℚ) = (whole % fullTurn : Int) :=
    (fits_intCast short).nearestMagnitude_eq (by exact_mod_cast notNegative)
  have notFull : ((whole % fullTurn : Int) : ℚ) ≠ fullTurn := by exact_mod_cast below.ne
  have normalized := standsFor_normalize_residue stands.1
  rwa [stands.2, residue_intCast, unrounded, if_neg notFull] at normalized

/-- A turn by whole degrees, as long as the sum stays where doubles are whole numbers. -/
theorem standsFor_turn {degrees delta : Float} {heading turn : Int}
    (faces : StandsFor degrees ((heading % fullTurn : Int) : ℚ)) (turns : StandsFor delta turn)
    (short : |turn| ≤ 2 ^ 53 - fullTurn) :
    StandsFor (normalize (degrees + delta)) (((heading + turn) % fullTurn : Int) : ℚ) := by
  -- The heading is below 360, so the bound on the turn alone keeps the sum below 53 bits.
  have fits : Fits (((heading % fullTurn : Int) : ℚ) + (turn : ℚ)) := by
    rw [← Int.cast_add]
    apply fits_intCast
    rw [abs_lt]
    rw [abs_le] at short
    rw [fullTurn] at *
    omega
  have sum := faces.add turns fits
  rw [← Int.cast_add] at sum
  rw [← Int.emod_add_emod]
  exact standsFor_normalize sum

end Heading

/-- How many turns to the left a command is worth. -/
def Command.turns : Command → Int
  | .turnLeft => 1
  | .turnRight => -1
  | .forward | .move | .push | .pop => 0

/-- How many more turns to the left than to the right a text has. -/
def turnBalance (text : List Char) : Int :=
  text.count '+' - text.count '-'

theorem Command.sum_turns (commands : List Command) :
    (commands.map Command.turns).sum =
      (commands.count .turnLeft - commands.count .turnRight : Int) := by
  induction commands with
  | nil => rfl
  | cons command commands ih =>
      rw [List.map_cons, List.sum_cons, ih]
      cases command <;> simp [turns] <;> omega

theorem Alphabet.sum_turns (alphabet : Alphabet) (text : List Char) :
    ((alphabet.commands text).map Command.turns).sum = turnBalance text := by
  rw [Command.sum_turns, alphabet.count_turnLeft, alphabet.count_turnRight, turnBalance]

namespace Turtle

open Heading

variable {step delta : Float} {turn : Int}

variable (step) in
theorem standsFor_heading_next {turtle : Turtle} {command : Command} {heading : Int}
    (noPop : command ≠ .pop) (turns : StandsFor delta turn) (short : |turn| ≤ 2 ^ 53 - fullTurn)
    (faces : StandsFor turtle.cursor.heading ((heading % fullTurn : Int) : ℚ)) :
    StandsFor (turtle.next step delta command).cursor.heading
      (((heading + turn * command.turns) % fullTurn : Int) : ℚ) := by
  cases command with
  | pop => exact absurd rfl noPop
  | forward | move | push =>
      rw [Command.turns, mul_zero, add_zero]
      exact faces
  | turnLeft =>
      rw [Command.turns, mul_one]
      exact standsFor_turn faces turns short
  | turnRight =>
      have opposite : StandsFor (-delta) ((-turn : Int) : ℚ) := by
        rw [Int.cast_neg]
        exact turns.neg
      rw [Command.turns, mul_neg_one]
      exact standsFor_turn faces opposite ((abs_neg turn).trans_le short)

/-- The heading is wrapped at each turn, but is what wrapping once at the end gives. -/
theorem standsFor_heading_walk {commands : List Command} (noPop : .pop ∉ commands)
    (turns : StandsFor delta turn) (short : |turn| ≤ 2 ^ 53 - fullTurn) {turtle : Turtle}
    {heading : Int} (faces : StandsFor turtle.cursor.heading ((heading % fullTurn : Int) : ℚ)) :
    StandsFor (turtle.walk step delta commands).cursor.heading
      (((heading + turn * (commands.map Command.turns).sum) % fullTurn : Int) : ℚ) := by
  induction commands generalizing turtle heading with
  | nil =>
      rw [List.map_nil, List.sum_nil, mul_zero, add_zero]
      exact faces
  | cons command commands ih =>
      obtain ⟨stays, noPop⟩ := not_or.mp (mt List.mem_cons.mpr noPop)
      have faces := standsFor_heading_next step (Ne.symm stays) turns short faces
      rw [List.map_cons, List.sum_cons, mul_add, ← add_assoc]
      exact ih noPop faces

end Turtle

theorem Motion.standsFor_heading {motion : Motion} {heading turn : Int}
    (faces : StandsFor motion.heading heading) (turns : StandsFor motion.delta turn)
    (short : |turn| ≤ 2 ^ 53 - Heading.fullTurn) (commands : String) :
    StandsFor (motion.outcome .basic commands).cursor.heading
      (((heading + turn * turnBalance commands.toList) % Heading.fullTurn : Int) : ℚ) := by
  rw [← Alphabet.basic.sum_turns]
  exact Turtle.standsFor_heading_walk (List.count_eq_zero.mp (Alphabet.count_pop_basic _)) turns
    short (Heading.standsFor_normalize faces)

namespace Session

variable {σ : Type} [Surface σ]

/-- The heading that a drawing in whole degrees ends with is exact. Texts with the same balance of
turns, however these are arranged, end with the same heading. -/
theorem render_wholeDegrees (session : Session σ) {heading turn : Int}
    (basic : session.setup.alphabet = .basic)
    (faces : StandsFor session.setup.motion.heading heading)
    (turns : StandsFor session.setup.motion.delta turn) (short : |turn| ≤ 2 ^ 53 - 360)
    (commands : String) :
    ∃ outcome : Outcome,
      (Surface.Willing session.surface → (session.render commands).result = .ok outcome) ∧
      (∀ completed, (session.render commands).result = .ok completed → completed = outcome) ∧
      StandsFor outcome.cursor.heading
        (((heading + turn * turnBalance commands.toList) % 360 : Int) : ℚ) ∧
      ∀ other completed, turnBalance other.toList = turnBalance commands.toList →
        (session.render other).result = .ok completed →
        StandsFor completed.cursor.heading (value outcome.cursor.heading) := by
  have exact := Motion.standsFor_heading faces turns short
  refine ⟨session.setup.motion.outcome .basic commands, ?_, ?_, exact commands, ?_⟩
  · intro willing
    rw [(render_of_willing willing commands).1, basic]
  · intro completed completes
    rw [outcome_of_render completes, basic]
  · intro other completed balanced completes
    rw [outcome_of_render completes, basic, (exact commands).2, ← balanced]
    exact exact other

/-- The largest whole numbers on both sides. Three turns to the right and two to the left come to
one turn to the right. -/
theorem render_wholeDegrees_extreme :
    let session : Session Recording := ⟨.blank, { Setup.standard with
      alphabet := .basic
      motion := { Motion.standard with heading := -9007199254740992.0, delta := 9007199254740632.0 }
      }⟩
    ∃ outcome completed : Outcome,
      (session.render "-F+[--+").result = .ok outcome ∧
      (session.render "-").result = .ok completed ∧
      StandsFor outcome.cursor.heading 296 ∧
      StandsFor completed.cursor.heading (value outcome.cursor.heading) := by
  intro session
  have start : StandsFor 9007199254740992.0 ((2 ^ 53 : Int) : ℚ) := by
    have unpacked : (9007199254740992.0 : Float).toModel.unpack =
        .finite .positive (2 ^ 52) 1 (by decide) := by rfl
    have stands := standsFor_of_unpack unpacked
    norm_num [signed] at stands ⊢
    exact stands
  have turns : StandsFor 9007199254740632.0 ((2 ^ 53 - 360 : Int) : ℚ) := by
    have unpacked : (9007199254740632.0 : Float).toModel.unpack =
        .finite .positive (2 ^ 53 - 360) 0 (by decide) := by rfl
    have stands := standsFor_of_unpack unpacked
    norm_num [signed] at stands ⊢
    exact stands
  have faces : StandsFor session.setup.motion.heading ((-2 ^ 53 : Int) : ℚ) := by
    rw [Int.cast_neg]
    exact start.neg
  obtain ⟨outcome, completes, _, final, same⟩ :=
    session.render_wholeDegrees rfl faces turns (by norm_num) "-F+[--+"
  have willing : Surface.Willing session.surface := Recording.willing .blank
  have drawn := (render_of_willing willing "-").1
  refine ⟨outcome, _, completes willing, drawn, ?_, ?_⟩
  · exact final
  · exact same "-" _ (by decide) drawn

end Session

end TurtleGraphics
