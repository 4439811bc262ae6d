import TurtleGraphics.Proofs.Drawing.Coupling

set_option autoImplicit false

/-!
# What a recording holds

Each drawing starts a recording afresh and nothing but a drawing touches it. So a recording that
was used in a session holds the last drawing and nothing else, whether the session owned it or had
it lent.
-/

namespace TurtleGraphics

namespace Recording

theorem performAll_draw (segments : List Segment) (recording : Recording) :
    Surface.performAll (segments.map .draw) recording =
      (.ok (), { recording with segments := recording.segments ++ segments.toArray }) := by
  induction segments generalizing recording with
  | nil => simp [Surface.performAll]
  | cons segment segments ih =>
      simp only [List.map_cons, Surface.performAll, perform_eq, ih, after]
      simp

/-- The calls of a drawing leave nothing of what was recorded before. -/
theorem performAll_calls (setup : Setup) (commands : String) (recording : Recording) :
    Surface.performAll (setup.calls commands) recording =
      (.ok (), ⟨(setup.motion.segments setup.alphabet commands).toArray, some setup.style,
        true⟩) := by
  rw [Setup.calls, Surface.performAll, perform_eq]
  simp only [Surface.performAll_append_of_ok (performAll_draw _ _), Surface.performAll, perform_eq,
    after]
  simp

end Recording

namespace Session

variable {σ : Type}

def lent (session : Session σ) : Session (Lent σ) :=
  ⟨⟨session.surface⟩, session.setup⟩

variable [Surface σ]

theorem askAll_append (first second : List Request) (session : Session σ) :
    session.askAll (first ++ second) =
      ((session.askAll first).1 ++ ((session.askAll first).2.askAll second).1,
        ((session.askAll first).2.askAll second).2) := by
  induction first generalizing session with
  | nil => rfl
  | cons request requests ih => simp only [List.cons_append, askAll, ih]

theorem length_askAll (requests : List Request) (session : Session σ) :
    (session.askAll requests).1.length = requests.length := by
  induction requests generalizing session with
  | nil => rfl
  | cons request requests ih => simp only [askAll, List.length_cons, ih]

theorem getElem?_askAll (before after : List Request) (request : Request) (session : Session σ) :
    (session.askAll (before ++ request :: after)).1[before.length]? =
      some (request, ((session.askAll before).2.ask request).1) := by
  rw [askAll_append, ← length_askAll before session, List.getElem?_append_right (Nat.le_refl _),
    Nat.sub_self]
  rfl

theorem askAll_surface_of_settled {requests : List Request}
    (settled : ∀ text, .perform (.render text) ∉ requests) (session : Session σ) :
    (session.askAll requests).2.surface = session.surface := by
  induction requests generalizing session with
  | nil => rfl
  | cons request requests ih =>
      have later : ∀ text, .perform (.render text) ∉ requests := by
        intro text member
        exact settled text (List.mem_cons_of_mem _ member)
      have untouched : (session.ask request).2.surface = session.surface := by
        cases request with
        | showSetup => rfl
        | showSurface => rfl
        | perform operation =>
            cases operation with
            | render text => exact absurd List.mem_cons_self (settled text)
            | reconfigure setup =>
                rw [ask, perform_reconfigure, reconfigure]
                cases setup.undrawable? <;> rfl
      exact (ih later (session.ask request).2).trans untouched

/-- On a recording a drawing always comes off, and what the recording held before is gone. -/
theorem render_recording (session : Session Recording) (commands : String) :
    let setup := session.setup
    (session.render commands).result = .ok (setup.motion.outcome setup.alphabet commands) ∧
      (session.render commands).session.surface =
        ⟨(setup.motion.segments setup.alphabet commands).toArray, some setup.style, true⟩ := by
  intro setup
  obtain ⟨result, after⟩ := session.render_eq commands
  rw [Recording.performAll_calls] at result after
  exact ⟨result, congrArg Session.surface after⟩

end Session

theorem Lent.couples {σ : Type} [Surface σ] :
    Surface.Couples fun (lent : Lent σ) (surface : σ) => lent.surface = surface := by
  intro call lent surface same
  subst same
  exact ⟨rfl, rfl⟩

namespace Session

/-- Whatever was asked before the last drawing, and whatever but a drawing after it, the recording
holds what a fresh session with the setup then in force records of its commands, and that session
comes to the same outcome. This is also what a lender finds on a recording that was lent. -/
theorem last_drawing_recorded {surface : Recording} {setup : Setup} {session : Session Recording}
    (started : (start surface setup).result = .ok session)
    (before : List Request) (commands : String)
    {after : List Request} (settled : ∀ text, .perform (.render text) ∉ after) :
    let drawing : Request := .perform (.render commands)
    let requests := before ++ drawing :: after
    let latest := (session.askAll before).2.setup
    ∃ (fresh : Session Recording) (outcome : Outcome),
      (start .blank latest).result = .ok fresh ∧ (fresh.render commands).result = .ok outcome ∧
      let recording := (fresh.render commands).session.surface
      recording.segments.toList = latest.motion.segments latest.alphabet commands ∧
      recording.style = some latest.style ∧ recording.presented = true ∧
      (session.askAll requests).2.surface = recording ∧
      (session.askAll requests).1[before.length]? = some (drawing, .response (.drawn outcome)) ∧
      (start ⟨surface⟩ setup).result = .ok session.lent ∧
      (session.lent.askAll requests).2.surface.surface = recording ∧
      (session.lent.askAll requests).1[before.length]? =
        some (drawing, .response (.drawn outcome)) := by
  intro drawing requests latest
  obtain ⟨rfl, drawable⟩ := start_eq_ok_iff.mp started
  let session : Session Recording := ⟨surface, setup⟩
  let reached := (session.askAll before).2
  let lentReached := (session.lent.askAll before).2
  let outcome := latest.motion.outcome latest.alphabet commands
  have latestDrawable : latest.undrawable? = none := (askAll_setup before session).2 drawable
  obtain ⟨redrawn, refreshed⟩ := render_recording ⟨.blank, latest⟩ commands
  obtain ⟨drawn, recorded⟩ := reached.render_recording commands
  have answered : (reached.perform (.render commands)).1 = .drawn outcome := by
    rw [perform_render, drawn]
    rfl
  have left : (reached.ask drawing).2 = (reached.render commands).session := by
    rw [ask, perform_render]
  -- The lent recording keeps abreast of the owned one, so only the owned one is followed.
  have abreast : ∀ requests, (session.lent.askAll requests).2.Abreast
      (fun lent surface => lent.surface = surface) (session.askAll requests).2 :=
    Lent.couples.askAll ⟨rfl, rfl⟩
  have kept : (session.askAll requests).2.surface =
      (Session.render ⟨.blank, latest⟩ commands).session.surface := by
    have last := askAll_surface_of_settled settled (reached.ask drawing).2
    rw [askAll_append, refreshed, ← recorded, ← left]
    exact last
  have lentAnswered : (lentReached.perform (.render commands)).1 = .drawn outcome :=
    (Lent.couples.perform (abreast before) (.render commands)).1.trans answered
  refine ⟨⟨.blank, latest⟩, outcome, ?_, redrawn, ?_, ?_, ?_, kept, ?_, ?_, ?_, ?_⟩
  · exact start_eq_ok_iff.mpr ⟨rfl, latestDrawable⟩
  · rw [refreshed]
  · rw [refreshed]
  · rw [refreshed]
  · rw [getElem?_askAll]
    exact congrArg (fun response => some (drawing, Answer.response response)) answered
  · exact start_eq_ok_iff.mpr ⟨rfl, drawable⟩
  · exact (abreast requests).surface.trans kept
  · rw [getElem?_askAll]
    exact congrArg (fun response => some (drawing, Answer.response response)) lentAnswered

/-- The recording was in use before, the first drawing leaves two cursors saved, and a refused setup
and an accepted one follow it. The closing bracket of the last drawing is foreign to it. -/
theorem last_drawing_recorded_unclosed :
    let used : Recording :=
      ⟨#[⟨.origin, ⟨1.0, 2.0⟩⟩], some { Style.standard with width := 3.0 }, true⟩
    let branching := { Setup.standard with alphabet := .bracketed }
    let session : Session Recording := ⟨used, branching⟩
    let before : List Request := [.perform (.render "F[+F["),
      .perform (.reconfigure { branching with scale := 0.0 }), .perform (.reconfigure .demo)]
    let after : List Request := [.perform (.reconfigure branching), .showSurface]
    let requests := before ++ .perform (.render "F]-F") :: after
    (start used branching).result = .ok session ∧ (∀ text, .perform (.render text) ∉ after) ∧
      (session.askAll before).2.setup = .demo ∧
      ∃ (recording : Recording) (outcome : Outcome),
        recording.segments.toList = Motion.demo.segments .basic "F]-F" ∧
        recording.style = some .standard ∧ recording.presented = true ∧
        (session.askAll requests).2.surface = recording ∧
        (session.askAll requests).1[3]? =
          some (.perform (.render "F]-F"), .response (.drawn outcome)) ∧
        (session.lent.askAll requests).2.surface.surface = recording := by
  intro used branching session before after requests
  have started : (start used branching).result = .ok session :=
    start_eq_ok_iff.mpr ⟨rfl, by decide⟩
  have settled : ∀ text, .perform (.render text) ∉ after := by
    intro text
    simp [after]
  obtain ⟨fresh, outcome, -, -, segments, style, presented, owned, answered, -, lent, -⟩ :=
    last_drawing_recorded started before "F]-F" settled
  exact ⟨started, settled, rfl, _, outcome, segments, style, presented, owned, answered, lent⟩

end Session

end TurtleGraphics
