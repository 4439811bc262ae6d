import TurtleGraphics.Drawing.Journal
import TurtleGraphics.Drawing.Recording
import TurtleGraphics.Proofs.Drawing.Plan

set_option autoImplicit false

/-!
# The calls of a drawing

A drawing makes one row of calls, known before it starts, and stops at the first one that is
refused. A traced surface watches this from outside, whatever the surface inside it does.
-/

namespace TurtleGraphics

namespace Motion

def turtle (motion : Motion) : Turtle :=
  ⟨.facing motion.start motion.heading, []⟩

def segments (motion : Motion) (alphabet : Alphabet) (commands : String) : List Segment :=
  Turtle.segments motion.step motion.delta (alphabet.commands commands.toList) motion.turtle

def outcome (motion : Motion) (alphabet : Alphabet) (commands : String) : Outcome where
  cursor :=
    (motion.turtle.walk motion.step motion.delta (alphabet.commands commands.toList)).cursor
  tally := alphabet.tally commands.toList 0

end Motion

/-- The calls of a drawing, in order. The style shows in the first call only. -/
def Setup.calls (setup : Setup) (commands : String) : List Call :=
  .begin setup.style ::
    ((setup.motion.segments setup.alphabet commands).map .draw ++ [.present])

namespace Surface

variable {σ : Type} [Surface σ]

/-- The calls that are made when a row of calls is performed up to the first refused one. -/
def attempted : List Call → σ → List Call
  | [], _ => []
  | call :: calls, surface =>
    match perform call surface with
    | (.ok (), next) => call :: attempted calls next
    | (.error _, _) => [call]

theorem attempted_append_of_ok {first : List Call} {surface shown : σ}
    (accepted : performAll first surface = (.ok (), shown)) (second : List Call) :
    attempted (first ++ second) surface = first ++ attempted second shown := by
  induction first generalizing surface with
  | nil =>
      cases accepted
      rfl
  | cons call calls ih =>
      simp only [performAll] at accepted
      split at accepted
      next next performed => simp only [List.cons_append, attempted, performed, ih accepted]
      next => cases accepted

theorem attempted_of_ok {calls : List Call} {surface shown : σ}
    (accepted : performAll calls surface = (.ok (), shown)) : attempted calls surface = calls := by
  have made := attempted_append_of_ok accepted []
  rwa [List.append_nil, attempted, List.append_nil] at made

theorem attempted_of_refused {calls : List Call} {index : Nat} {call : Call}
    {surface reached stopped : σ} {failure : Failure}
    (accepted : performAll (calls.take index) surface = (.ok (), reached))
    (planned : calls[index]? = some call)
    (refused : perform call reached = (.error failure, stopped)) :
    attempted calls surface = calls.take (index + 1) ∧
      performAll calls surface = (.error failure, stopped) := by
  induction calls generalizing surface index with
  | nil => cases planned
  | cons head calls ih =>
      cases index with
      | zero =>
          cases accepted
          cases planned
          simp [attempted, performAll, refused]
      | succ index =>
          simp only [List.take_succ_cons, performAll] at accepted
          split at accepted
          next next performed =>
            obtain ⟨made, stop⟩ := ih accepted planned
            simp [attempted, performAll, performed, made, stop]
          next => cases accepted

end Surface

/-- A surface under observation: the calls that were made on it, refused ones included. -/
structure Traced (σ : Type) where
  surface : σ
  calls : List Call

namespace Traced

variable {σ : Type} [Surface σ]

instance : Surface (Traced σ) where
  perform call traced :=
    let (answer, surface) := Surface.perform call traced.surface
    (answer, ⟨surface, traced.calls ++ [call]⟩)

theorem perform_eq (call : Call) (traced : Traced σ) :
    Surface.perform call traced =
      ((Surface.perform call traced.surface).1,
        ⟨(Surface.perform call traced.surface).2, traced.calls ++ [call]⟩) := rfl

theorem performAll_eq (calls : List Call) (traced : Traced σ) :
    Surface.performAll calls traced =
      ((Surface.performAll calls traced.surface).1,
        ⟨(Surface.performAll calls traced.surface).2,
          traced.calls ++ Surface.attempted calls traced.surface⟩) := by
  induction calls generalizing traced with
  | nil => simp [Surface.performAll, Surface.attempted]
  | cons call calls ih =>
      rw [Surface.performAll, perform_eq, Surface.performAll, Surface.attempted]
      rcases Surface.perform call traced.surface with ⟨_ | _, next⟩
      · rfl
      · simp [ih]

end Traced

namespace Session

variable {σ : Type}

def traced (session : Session σ) : Session (Traced σ) :=
  ⟨⟨session.surface, []⟩, session.setup⟩

variable [Surface σ]

/-- A drawing is the row of its calls, performed up to the first refused one. -/
theorem render_eq (session : Session σ) (commands : String) :
    (session.render commands).result =
        (Surface.performAll (session.setup.calls commands) session.surface).1.map
          (fun _ => session.setup.motion.outcome session.setup.alphabet commands) ∧
      (session.render commands).session =
        ⟨(Surface.performAll (session.setup.calls commands) session.surface).2,
          session.setup⟩ := by
  obtain ⟨surface, setup⟩ := session
  simp only [render, Setup.calls, Surface.performAll]
  rcases Surface.perform (.begin setup.style) surface with ⟨_ | _, begun⟩
  · exact ⟨rfl, rfl⟩
  · have read := Progress.readAll_spec setup.motion setup.alphabet commands.toList
      ⟨begun, startCursor setup, [], .zero, #[startEvent setup commands]⟩
    have planned : Progress.plan setup.motion setup.alphabet commands.toList
        ⟨begun, startCursor setup, [], .zero, #[startEvent setup commands]⟩ =
          (setup.motion.segments setup.alphabet commands).map .draw := rfl
    rw [planned] at read
    rcases drawn : Surface.performAll ((setup.motion.segments setup.alphabet commands).map .draw)
      begun with ⟨_ | _, shown⟩
    · rw [drawn] at read
      obtain ⟨stopped, reading, same⟩ := read
      simp only [reading, Surface.performAll_append_of_error drawn, same]
      exact ⟨rfl, trivial⟩
    · rw [drawn] at read
      simp only [read, Progress.after, Surface.performAll_append_of_ok drawn, Surface.performAll,
        Tally.zero_add]
      rcases Surface.perform .present shown with ⟨_ | _, presented⟩ <;> exact ⟨rfl, rfl⟩

/-- The planned calls depend on the style and on what is drawn; the segments among them and the
outcome do not depend on the surface, the viewport, the scale or the style. Drawing makes all
planned calls, or those up to the first refused one, and that one's failure is the result. -/
theorem render_follows_plan (session : Session σ) (commands : String) :
    let setup := session.setup
    let segments := setup.motion.segments setup.alphabet commands
    let plan := .begin setup.style :: (segments.map Call.draw ++ [.present])
    let watched := session.traced.render commands
    (watched.result = (session.render commands).result ∧
      watched.session.surface.surface = (session.render commands).session.surface) ∧
    (∀ shown, Surface.performAll plan session.surface = (.ok (), shown) →
      watched.result = .ok (setup.motion.outcome setup.alphabet commands) ∧
        watched.session.surface = ⟨shown, plan⟩) ∧
    (∀ index call reached failure stopped,
      Surface.performAll (plan.take index) session.surface = (.ok (), reached) →
      plan[index]? = some call →
      Surface.perform call reached = (.error failure, stopped) →
      watched.result = .error failure ∧
        watched.session.surface = ⟨stopped, plan.take (index + 1)⟩) := by
  intro setup segments plan watched
  obtain ⟨result, after⟩ := session.render_eq commands
  obtain ⟨watchedResult, watchedAfter⟩ := session.traced.render_eq commands
  rw [Traced.performAll_eq] at watchedResult watchedAfter
  have answer : watched.result = (Surface.performAll plan session.surface).1.map
      fun _ => setup.motion.outcome setup.alphabet commands := watchedResult
  have left : watched.session.surface = ⟨(Surface.performAll plan session.surface).2,
      Surface.attempted plan session.surface⟩ := congrArg Session.surface watchedAfter
  refine ⟨⟨watchedResult.trans result.symm, ?_⟩, ?_, ?_⟩
  · rw [left, after]
    rfl
  · intro shown accepted
    rw [answer, left, accepted, Surface.attempted_of_ok accepted]
    exact ⟨rfl, rfl⟩
  · intro index call reached failure stopped accepted planned refused
    obtain ⟨made, stop⟩ := Surface.attempted_of_refused accepted planned refused
    rw [answer, left, stop, made]
    exact ⟨rfl, rfl⟩

/-- The second segment of a branching drawing is refused: its call is the third and last one of
five. A recording accepts all five. -/
theorem render_follows_plan_branching :
    let setup := { Setup.standard with alphabet := .bracketed }
    let journal : Session Journal := ⟨.blank ⟨none, some 2, none⟩, setup⟩
    let recording : Session Recording := ⟨.blank, setup⟩
    let segments := setup.motion.segments setup.alphabet "F[xF]f+F"
    let plan := Call.begin setup.style :: (segments.map Call.draw ++ [.present])
    (∃ call, plan[2]? = some call ∧
      (journal.traced.render "F[xF]f+F").result =
        .error (.surface (call.note ++ " failed")) ∧
      (journal.traced.render "F[xF]f+F").session.surface.calls = plan.take 3) ∧
    plan.length = 5 ∧
    (recording.traced.render "F[xF]f+F").result =
      .ok (setup.motion.outcome setup.alphabet "F[xF]f+F") ∧
    (recording.traced.render "F[xF]f+F").session.surface.calls = plan := by
  intro setup journal recording segments plan
  have stopped := (journal.render_follows_plan "F[xF]f+F").2.2 2 _ _ _ _ rfl rfl rfl
  have completed := (recording.render_follows_plan "F[xF]f+F").2.1 _ rfl
  exact ⟨⟨_, rfl, stopped.1, congrArg Traced.calls stopped.2⟩, rfl, completed.1,
    congrArg Traced.calls completed.2⟩

end Session

end TurtleGraphics
