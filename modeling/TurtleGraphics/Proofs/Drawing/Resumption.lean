import TurtleGraphics.Proofs.Drawing.Unhindered
import TurtleGraphics.Proofs.Turtle.Headings

set_option autoImplicit false

/-!
# Resumed drawings

A drawing can be interrupted and taken up again with a new drawing that starts where the first one
ended. All that is lost between the two are the saved cursors, so the second part must not restore
any of those.
-/

namespace TurtleGraphics

def Motion.resumed (motion : Motion) (cursor : Cursor) : Motion :=
  { motion with start := cursor.position, heading := cursor.heading }

/-- The setup that starts with a cursor. -/
def Setup.resumed (setup : Setup) (cursor : Cursor) : Setup :=
  { setup with motion := setup.motion.resumed cursor }

namespace Motion

variable (motion : Motion) (alphabet : Alphabet)

def walked (commands : String) : Turtle :=
  motion.turtle.walk motion.step motion.delta (alphabet.commands commands.toList)

theorem hasNormalHeadings_walked (commands : String) :
    (motion.walked alphabet commands).HasNormalHeadings :=
  (Turtle.hasNormalHeadings_facing motion.start motion.heading).walk _

theorem turtle_resumed {cursor : Cursor} (normal : Heading.IsNormal cursor.heading) :
    (motion.resumed cursor).turtle = ⟨cursor, []⟩ := by
  rw [turtle, resumed, Cursor.facing_of_isNormal normal]

/-- Without the cursors that were saved before, the same turtle goes on. -/
theorem walked_eq_above (commands : String) :
    let turtle := motion.walked alphabet commands
    turtle = (motion.resumed turtle.cursor).turtle.above turtle.saved := by
  intro turtle
  rw [turtle_resumed _ (motion.hasNormalHeadings_walked alphabet commands _ List.mem_cons_self)]
  rfl

variable {alphabet}

theorem segments_resumed (first : String) {second : String}
    (contained : alphabet.unmatchedPops second.toList 0 = 0) :
    motion.segments alphabet (first ++ second) =
      motion.segments alphabet first ++
        (motion.resumed (motion.outcome alphabet first).cursor).segments alphabet second := by
  let fresh := (motion.resumed (motion.walked alphabet first).cursor).turtle
  have alone : Command.unmatchedPops (alphabet.commands second.toList) fresh.saved.length = 0 :=
    contained
  have kept := Turtle.segments_above motion.step motion.delta alone
    (motion.walked alphabet first).saved
  rw [← motion.walked_eq_above alphabet first] at kept
  simp only [segments, String.toList_append, Alphabet.commands_append, Turtle.segments_append]
  exact congrArg _ kept

theorem outcome_resumed (first : String) {second : String}
    (contained : alphabet.unmatchedPops second.toList 0 = 0) :
    let start := motion.outcome alphabet first
    let rest := (motion.resumed start.cursor).outcome alphabet second
    motion.outcome alphabet (first ++ second) = ⟨rest.cursor, start.tally + rest.tally⟩ := by
  intro start rest
  let fresh := (motion.resumed (motion.walked alphabet first).cursor).turtle
  have alone : Command.unmatchedPops (alphabet.commands second.toList) fresh.saved.length = 0 :=
    contained
  have kept := Turtle.walk_above motion.step motion.delta alone
    (motion.walked alphabet first).saved
  rw [← motion.walked_eq_above alphabet first] at kept
  have cursors : (motion.outcome alphabet (first ++ second)).cursor = rest.cursor := by
    have same := congrArg Turtle.cursor kept
    simp only [outcome, String.toList_append, Alphabet.commands_append, Turtle.walk_append]
    exact same
  have counts : (motion.outcome alphabet (first ++ second)).tally = start.tally + rest.tally := by
    simp only [outcome, String.toList_append, Alphabet.tally_append,
      alphabet.tally_of_contained contained, start, rest]
  rw [← cursors, ← counts]

end Motion

namespace Session

variable {σ : Type} [Surface σ]

/-- The second part is drawn after an exchange of the setup. It draws the rest of the whole
drawing if it has no command that restores a cursor saved in the first part, which only brackets
can do. -/
theorem render_resumed (session : Session σ) (drawable : session.setup.undrawable? = none)
    (willing : Surface.Willing session.surface) (first second : String) :
    ∃ alone : Outcome, (session.render second).result = .ok alone ∧
      (session.setup.alphabet = .basic → alone.tally.unmatchedPops = 0) ∧
      (alone.tally.unmatchedPops = 0 →
        ∃ start rest whole : Outcome,
          let interrupted := (session.render first).session
          let resumed := interrupted.reconfigure (session.setup.resumed start.cursor)
          (session.render first).result = .ok start ∧
          resumed.result = .ok () ∧
          (resumed.session.render second).result = .ok rest ∧
          (session.render (first ++ second)).result = .ok whole ∧
          rest.cursor = whole.cursor ∧
          session.drawn first ++ resumed.session.drawn second = session.drawn (first ++ second) ∧
          start.tally + rest.tally = whole.tally) := by
  let motion := session.setup.motion
  let alphabet := session.setup.alphabet
  refine ⟨motion.outcome alphabet second, (render_of_willing willing second).1, ?_, ?_⟩
  · intro basic
    have contained := Alphabet.unmatchedPops_basic second.toList 0
    rw [← basic] at contained
    exact contained
  · intro contained
    obtain ⟨started, further, startDrawn⟩ := render_of_willing willing first
    obtain ⟨completed, _, wholeDrawn⟩ := render_of_willing willing (first ++ second)
    let start := motion.outcome alphabet first
    let rest := (motion.resumed start.cursor).outcome alphabet second
    let continued : Session σ :=
      ⟨(session.render first).session.surface, session.setup.resumed start.cursor⟩
    have accepted : (session.render first).session.reconfigure
        (session.setup.resumed start.cursor) = ⟨.ok (), continued, #[]⟩ :=
      reconfigure_of_drawable drawable
    have continuedWilling : Surface.Willing continued.surface := further
    obtain ⟨finished, _, restDrawn⟩ := render_of_willing continuedWilling second
    refine ⟨start, rest, motion.outcome alphabet (first ++ second), started, ?_⟩
    rw [accepted, completed, startDrawn, restDrawn, wholeDrawn, motion.outcome_resumed first
      contained, motion.segments_resumed first contained]
    exact ⟨rfl, finished, rfl, rfl, rfl, rfl⟩

/-- The first part leaves a cursor saved, and the second one nests on its own. -/
theorem render_resumed_branching :
    let setup := { Setup.standard with alphabet := .bracketed }
    let session : Session Recording := ⟨.blank, setup⟩
    setup.undrawable? = none ∧ Surface.Willing session.surface ∧
      ∃ start rest whole : Outcome,
        let interrupted := (session.render "F[+F").session
        let resumed := interrupted.reconfigure (setup.resumed start.cursor)
        (session.render "F[+F").result = .ok start ∧
        resumed.result = .ok () ∧
        (resumed.session.render "-F[f+F]").result = .ok rest ∧
        (session.render "F[+F-F[f+F]").result = .ok whole ∧
        rest.cursor = whole.cursor ∧
        session.drawn "F[+F" ++ resumed.session.drawn "-F[f+F]" = session.drawn "F[+F-F[f+F]" ∧
        start.tally + rest.tally = whole.tally := by
  intro setup session
  have drawable : setup.undrawable? = none := by decide
  have willing : Surface.Willing session.surface := Recording.willing _
  obtain ⟨alone, result, _, resumes⟩ := session.render_resumed drawable willing "F[+F" "-F[f+F]"
  rw [(render_of_willing willing "-F[f+F]").1] at result
  cases result
  exact ⟨drawable, willing, resumes rfl⟩

end Session

end TurtleGraphics
