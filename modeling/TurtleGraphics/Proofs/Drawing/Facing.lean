import TurtleGraphics.Proofs.Drawing.Reports
import TurtleGraphics.Proofs.Drawing.Tallies
import TurtleGraphics.Proofs.Turtle.Headings

set_option autoImplicit false

/-!
# Where a drawing faces

No drawing ever faces out of the range of headings, at none of its points and with none of the
cursors that it has saved, whatever the angles of its setup are. Finite angles never make a
heading NaN. Where no cursor is restored, one angle that is not finite makes all later headings NaN.
-/

namespace TurtleGraphics

/-- A heading that a drawing can have. -/
structure Motion.Allows (motion : Motion) (heading : Float) : Prop where
  normal : Heading.IsNormal heading
  number : motion.heading.isFinite = true → motion.delta.isFinite = true → heading.isNaN = false

namespace Motion

variable {motion : Motion}

theorem allows_normalize {heading : Float}
    (finite : motion.heading.isFinite = true → motion.delta.isFinite = true →
      heading.isFinite = true) : motion.Allows (Heading.normalize heading) where
  normal := Heading.isNormal_normalize heading
  number headingFinite deltaFinite := by
    apply Number.isNaN_of_isFinite
    rw [Heading.isFinite_normalize]
    exact finite headingFinite deltaFinite

theorem Allows.turn {heading : Float} (allows : motion.Allows heading) {delta : Float}
    (same : delta.isFinite = motion.delta.isFinite) :
    motion.Allows (Heading.normalize (heading + delta)) := by
  apply allows_normalize
  intro headingFinite deltaFinite
  have finite : heading.isFinite = true := by
    rw [← Bool.not_eq_false', ← allows.normal.isNaN_eq]
    exact allows.number headingFinite deltaFinite
  exact (allows.normal.isFinite_add delta).mpr ⟨finite, same.trans deltaFinite⟩

theorem faces_start : motion.turtle.Faces motion.Allows := by
  intro cursor member
  obtain rfl := List.mem_singleton.mp member
  exact allows_normalize fun headingFinite _ => headingFinite

theorem faces_next (turtle : Turtle) (command : Command) (faces : turtle.Faces motion.Allows) :
    (turtle.next motion.step motion.delta command).Faces motion.Allows :=
  faces.next
    (fun _ (allows : motion.Allows _) =>
      ⟨allows.turn rfl, allows.turn (Number.isFinite_neg motion.delta)⟩)
    command

variable (motion) in
theorem isNaN_heading_basic (commands : String) :
    let outcome := motion.outcome .basic commands
    outcome.cursor.heading.isNaN = true ↔
      motion.heading.isFinite = false ∨
        motion.delta.isFinite = false ∧ 0 < outcome.tally.turns := by
  intro outcome
  let decoded := Alphabet.basic.commands commands.toList
  have normal : motion.turtle.HasNormalHeadings := Turtle.hasNormalHeadings_facing _ _
  have noPop : .pop ∉ decoded := List.count_eq_zero.mp (Alphabet.count_pop_basic _)
  have walked : outcome.cursor.heading.isFinite = true ↔
      (Heading.normalize motion.heading).isFinite = true ∧
        (motion.delta.isFinite = true ∨ ∀ command ∈ decoded, command.kind ≠ .turn) :=
    Turtle.isFinite_heading_walk noPop normal
  have noTurn : (∀ command ∈ decoded, command.kind ≠ .turn) ↔ outcome.tally.turns = 0 := by
    have turns : outcome.tally.turns = decoded.countP fun command => command.kind = .turn :=
      (Command.countP_turn decoded).symm
    simp [turns, List.countP_eq_zero]
  have final : Heading.IsNormal outcome.cursor.heading :=
    normal.walk decoded _ List.mem_cons_self
  rw [Heading.isFinite_normalize, noTurn] at walked
  rw [final.isNaN_eq, Bool.not_eq_true', ← Bool.not_eq_true, walked, Nat.pos_iff_ne_zero]
  cases motion.heading.isFinite <;> cases motion.delta.isFinite <;> simp

end Motion

namespace Session

variable {σ : Type} [Surface σ]

/-- The states of a drawing: the one that it starts in, and what it has come to by the time it has
read a part of its commands, or as much of the part as was not refused. -/
inductive Passes (session : Session σ) (commands : String) : Turtle → Prop
  | start : session.Passes commands ⟨startCursor session.setup, []⟩
  | reading {begun : σ} {part : List Char} :
      Surface.perform (.begin session.setup.style) session.surface = (.ok (), begun) →
      part <+: commands.toList →
      session.Passes commands ((opened session.setup commands begun).readAll session.setup.motion
        session.setup.alphabet part).2.turtle

theorem Passes.faces {session : Session σ} {commands : String} {turtle : Turtle}
    (passes : session.Passes commands turtle) : turtle.Faces session.setup.motion.Allows := by
  cases passes with
  | start => exact Motion.faces_start
  | reading => exact Progress.readAll_keeps _ _ Motion.faces_next _ Motion.faces_start

/-- The headings of a drawing are normal at each of its points, those of its saved cursors included,
and also if the drawing is interrupted later. So is the heading that it ends with. -/
theorem render_faces (session : Session σ) (commands : String) :
    let setup := session.setup
    let motion := setup.motion
    (∀ turtle, session.Passes commands turtle →
      ∀ cursor ∈ turtle.cursor :: turtle.saved, motion.Allows cursor.heading) ∧
    ∃ outcome : Outcome,
      (Surface.Willing session.surface → (session.render commands).result = .ok outcome) ∧
      (∀ completed, (session.render commands).result = .ok completed → completed = outcome) ∧
      motion.Allows outcome.cursor.heading ∧
      (setup.alphabet = .basic →
        (outcome.cursor.heading.isNaN = true ↔
          motion.heading.isFinite = false ∨
            motion.delta.isFinite = false ∧ 0 < outcome.tally.turns)) := by
  intro setup motion
  refine ⟨fun _ passes => passes.faces, motion.outcome setup.alphabet commands,
    fun willing => (render_of_willing willing commands).1, fun _ => outcome_of_render, ?_, ?_⟩
  · have faces : (motion.turtle.walk motion.step motion.delta
        (setup.alphabet.commands commands.toList)).Faces motion.Allows :=
      Turtle.walk_keeps Motion.faces_next _ Motion.faces_start
    exact faces _ List.mem_cons_self
  · intro basic
    rw [basic]
    exact motion.isNaN_heading_basic commands

/-- Turns by the largest finite angle inside a branch, and a turn by an angle that is not finite. -/
theorem render_faces_extreme :
    let turning (alphabet : Alphabet) (delta : Float) : Session Recording :=
      ⟨.blank, { Setup.standard with alphabet, motion := { Motion.standard with delta } }⟩
    let huge := turning .bracketed 1.7976931348623157e308
    let endless := turning .basic (1.0 / 0.0)
    (∃ turtle, huge.Passes "F[+F+f]-F" turtle ∧ turtle.saved.length = 1 ∧
      ∀ cursor ∈ turtle.cursor :: turtle.saved,
        Heading.IsNormal cursor.heading ∧ cursor.heading.isNaN = false) ∧
    ∃ outcome, (endless.render "F[+F").result = .ok outcome ∧
      outcome.cursor.heading.isNaN = true := by
  intro turning huge endless
  constructor
  · have passes : huge.Passes "F[+F+f]-F" _ :=
      @Passes.reading _ _ huge "F[+F+f]-F" _ "F[+F+".toList rfl (by decide)
    refine ⟨_, passes, by decide, fun cursor member => ?_⟩
    have allows := (huge.render_faces "F[+F+f]-F").1 _ passes cursor member
    exact ⟨allows.normal, allows.number (by decide) (by decide +kernel)⟩
  · obtain ⟨outcome, completes, _, _, basic⟩ := (endless.render_faces "F[+F").2
    have completed := completes (Recording.willing .blank)
    have turns : 0 < outcome.tally.turns := by
      obtain ⟨_, _, turns, _⟩ := render_counts completed
      rw [turns]
      decide
    exact ⟨outcome, completed, (basic rfl).mpr (.inr ⟨by decide, turns⟩)⟩

end Session

end TurtleGraphics
