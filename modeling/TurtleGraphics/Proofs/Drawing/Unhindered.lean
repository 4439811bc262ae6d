import TurtleGraphics.Drawing.Recording
import TurtleGraphics.Proofs.Drawing.Protocol

set_option autoImplicit false

/-!
# Unhindered drawings

What a drawing comes to when its surface refuses nothing. All such surfaces are given the same
segments and lead to the same outcome, so a setup and a text alone determine both.
-/

namespace TurtleGraphics

namespace Surface

variable {σ : Type} [Surface σ]

/-- A surface that refuses nothing, however it is used. -/
def Willing (surface : σ) : Prop :=
  ∀ calls : List Call, (performAll calls surface).1 = .ok ()

theorem Willing.performAll {surface : σ} (willing : Willing surface) (calls : List Call) :
    ∃ next, Surface.performAll calls surface = (.ok (), next) ∧ Willing next := by
  rcases performed : Surface.performAll calls surface with ⟨answer, next⟩
  have accepted : answer = .ok () := by
    rw [← willing calls, performed]
  subst accepted
  refine ⟨next, rfl, fun further => ?_⟩
  rw [← performAll_append_of_ok performed]
  exact willing (calls ++ further)

end Surface

theorem Recording.willing (recording : Recording) : Surface.Willing recording := by
  intro calls
  induction calls generalizing recording with
  | nil => rfl
  | cons call calls ih => exact ih (recording.after call)

def Call.segment? : Call → Option Segment
  | .draw segment => some segment
  | .begin _ => none
  | .present => none

theorem Call.filterMap_draw (segments : List Segment) :
    (segments.map Call.draw).filterMap Call.segment? = segments := by
  have handed : Call.segment? ∘ Call.draw = some := rfl
  rw [List.filterMap_map, handed, List.filterMap_some]

theorem Setup.segments_of_calls (setup : Setup) (commands : String) :
    (setup.calls commands).filterMap Call.segment? =
      setup.motion.segments setup.alphabet commands := by
  rw [Setup.calls, List.filterMap_cons_none rfl, List.filterMap_append, Call.filterMap_draw]
  exact List.append_nil _

namespace Session

variable {σ : Type} [Surface σ]

/-- The segments that a drawing hands to its surface, in order. -/
def drawn (session : Session σ) (commands : String) : List Segment :=
  (session.traced.render commands).session.surface.calls.filterMap Call.segment?

theorem drawn_eq (session : Session σ) (commands : String) :
    session.drawn commands = (Surface.attempted (session.setup.calls commands)
      session.surface).filterMap Call.segment? := by
  obtain ⟨_, watched⟩ := session.traced.render_eq commands
  rw [Traced.performAll_eq] at watched
  have made : (session.traced.render commands).session.surface.calls =
      Surface.attempted (session.setup.calls commands) session.surface :=
    congrArg (fun watching => watching.surface.calls) watched
  rw [drawn, made]

theorem render_of_willing {session : Session σ} (willing : Surface.Willing session.surface)
    (commands : String) :
    (session.render commands).result =
        .ok (session.setup.motion.outcome session.setup.alphabet commands) ∧
      Surface.Willing (session.render commands).session.surface ∧
      session.drawn commands = session.setup.motion.segments session.setup.alphabet commands := by
  obtain ⟨next, accepted, further⟩ := willing.performAll (session.setup.calls commands)
  obtain ⟨result, after⟩ := session.render_eq commands
  refine ⟨?_, ?_, ?_⟩
  · rw [result, accepted]
    rfl
  · rw [after, accepted]
    exact further
  · rw [drawn_eq, Surface.attempted_of_ok accepted, session.setup.segments_of_calls]

end Session

/-- On every surface that refuses nothing, a drawing of the commands hands over just these
segments and comes to this outcome. -/
def Setup.Draws (setup : Setup) (commands : String) (segments : List Segment)
    (outcome : Outcome) : Prop :=
  ∀ (σ : Type) [Surface σ] (surface : σ), Surface.Willing surface →
    let session : Session σ := ⟨surface, setup⟩
    (session.render commands).result = .ok outcome ∧ session.drawn commands = segments

theorem Setup.draws (setup : Setup) (commands : String) :
    setup.Draws commands (setup.motion.segments setup.alphabet commands)
      (setup.motion.outcome setup.alphabet commands) := by
  intro σ _ surface willing session
  have drawing := session.render_of_willing willing commands
  exact ⟨drawing.1, drawing.2.2⟩

theorem Setup.Draws.unique {setup : Setup} {commands : String} {segments others : List Segment}
    {outcome other : Outcome} (draws : setup.Draws commands segments outcome)
    (alsoDraws : setup.Draws commands others other) : segments = others ∧ outcome = other := by
  have willing := Recording.willing .blank
  obtain ⟨completed, drawn⟩ := draws Recording .blank willing
  obtain ⟨alsoCompleted, alsoDrawn⟩ := alsoDraws Recording .blank willing
  exact ⟨drawn.symm.trans alsoDrawn, Except.ok.inj (completed.symm.trans alsoCompleted)⟩

end TurtleGraphics
