import TurtleGraphics.Proofs.Drawing.Protocol

set_option autoImplicit false

/-!
# Sessions that are asked row by row

The setup of a session is drawable at any time, whatever was asked of the session before and
whatever its surface refused: it is the one that was accepted last.
-/

namespace TurtleGraphics

namespace Session

/-- An operation, or a look at one of the two parts of a session. -/
inductive Request where
  | perform (operation : Operation)
  | showSetup
  | showSurface

inductive Answer (σ : Type) where
  | response (response : Response)
  | setup (setup : Setup)
  | surface (surface : σ)

/-- The setup that a request has put in force, by its answer. -/
def accepted? {σ : Type} : Request × Answer σ → Option Setup
  | (.perform (.reconfigure setup), .response .accepted) => some setup
  | _ => none

/-- The setup in force after some requests that were begun with another one. -/
def inForce {σ : Type} (log : List (Request × Answer σ)) (setup : Setup) : Setup :=
  (log.filterMap accepted?).getLast?.getD setup

variable {σ : Type}

theorem inForce_cons (entry : Request × Answer σ) (log : List (Request × Answer σ))
    (setup : Setup) : inForce (entry :: log) setup = inForce log (inForce [entry] setup) := by
  cases decided : accepted? entry with
  | none => simp [inForce, decided]
  | some accepted => simp [inForce, decided, List.getLast?_cons]

variable [Surface σ]

def ask (session : Session σ) (request : Request) : Answer σ × Session σ :=
  match request with
  | .perform operation =>
    let (response, next, _) := session.perform operation
    (.response response, next)
  | .showSetup => (.setup session.setup, session)
  | .showSurface => (.surface session.surface, session)

/-- All requests with their answers, refused ones included, and the session after them. -/
def askAll : List Request → Session σ → List (Request × Answer σ) × Session σ
  | [], session => ([], session)
  | request :: requests, session =>
    let (answer, next) := session.ask request
    let (log, last) := askAll requests next
    ((request, answer) :: log, last)

/-- One request exchanges the setup only by an answer that says so, and only for a drawable one. -/
theorem ask_setup (session : Session σ) (request : Request) :
    (session.ask request).2.setup = inForce [(request, (session.ask request).1)] session.setup ∧
      (session.setup.undrawable? = none → (session.ask request).2.setup.undrawable? = none) := by
  cases request with
  | showSetup => exact ⟨rfl, id⟩
  | showSurface => exact ⟨rfl, id⟩
  | perform operation =>
      cases operation with
      | render commands =>
          have kept := session.render_setup commands
          rcases drawing : session.render commands with ⟨_ | _, next, events⟩
          all_goals
            rw [drawing] at kept
            have same : next.setup = session.setup := kept
            simp [ask, perform, drawing, inForce, accepted?, same]
      | reconfigure setup =>
          cases checked : setup.undrawable? with
          | none => simp [ask, perform, reconfigure, checked, inForce, accepted?]
          | some cause => simp [ask, perform, reconfigure, checked, inForce, accepted?]

theorem askAll_setup (requests : List Request) (session : Session σ) :
    (askAll requests session).2.setup = inForce (askAll requests session).1 session.setup ∧
      (session.setup.undrawable? = none →
        (askAll requests session).2.setup.undrawable? = none) := by
  induction requests generalizing session with
  | nil => exact ⟨rfl, id⟩
  | cons request requests ih =>
      obtain ⟨exchanged, drawable⟩ := session.ask_setup request
      obtain ⟨later, kept⟩ := ih (session.ask request).2
      rw [askAll, inForce_cons, ← exchanged]
      exact ⟨later, fun before => kept (drawable before)⟩

/-- Whatever a session was asked since it started, its setup is drawable and is the one accepted
last. A refused exchange of the setup leaves all as it was and makes no call, an accepted one
changes nothing but the setup and makes no call either, and no drawing changes the setup, however
it ends. -/
theorem setup_in_force {surface : σ} {setup : Setup} {session : Session σ}
    (started : (start surface setup).result = .ok session) (requests : List Request) :
    let log := (session.askAll requests).1
    let reached := (session.askAll requests).2
    reached.setup.undrawable? = none ∧
    reached.setup = inForce log setup ∧
    (∀ next failure, (reached.reconfigure next).result = .error failure →
      (reached.reconfigure next).session = reached ∧
        (reached.traced.reconfigure next).session.surface.calls = []) ∧
    (∀ next, (reached.reconfigure next).result = .ok () →
      (reached.reconfigure next).session = { reached with setup := next } ∧
        (reached.traced.reconfigure next).session.surface.calls = []) ∧
    ∀ commands, (reached.render commands).session.setup = reached.setup := by
  intro log reached
  obtain ⟨rfl, drawable⟩ := start_eq_ok_iff.mp started
  obtain ⟨latest, kept⟩ := askAll_setup requests ⟨surface, setup⟩
  have quiet : ∀ next, (reached.traced.reconfigure next).session.surface.calls = [] := by
    intro next
    rw [reconfigure]
    cases next.undrawable? <;> rfl
  refine ⟨kept drawable, latest, ?_, ?_, reached.render_setup⟩
  · intro next failure refused
    refine ⟨?_, quiet next⟩
    cases checked : next.undrawable? with
    | none =>
        rw [reconfigure_of_drawable checked] at refused
        cases refused
    | some cause => rw [reconfigure_of_undrawable checked]
  · intro next accepted
    refine ⟨?_, quiet next⟩
    cases checked : next.undrawable? with
    | none => rw [reconfigure_of_drawable checked]
    | some cause =>
        rw [reconfigure_of_undrawable checked] at accepted
        cases accepted

/-- The first drawing is interrupted, the setup after it is refused and the one after that is
accepted. What is refused later, a drawing or a setup, leaves that one in force. -/
theorem setup_in_force_interrupted :
    let flat := { Setup.standard with viewport := ⟨0, 600⟩ }
    let wide := { Setup.demo with viewport := ⟨1920, 600⟩ }
    let session : Session Journal := ⟨.blank ⟨none, some 1, some 2⟩, .standard⟩
    let requests : List Request := [.perform (.render "f+F"), .perform (.reconfigure flat),
      .perform (.reconfigure wide), .showSetup, .perform (.render "FF"), .showSurface,
      .perform (.reconfigure { wide with scale := 0.0 }), .perform (.render "f")]
    (start session.surface .standard).result = .ok session ∧
      inForce (session.askAll requests).1 .standard = wide ∧
      (session.askAll requests).2.setup = wide ∧
      (session.askAll requests).2.setup.undrawable? = none ∧
      ((session.askAll requests).2.reconfigure flat).session = (session.askAll requests).2 := by
  dsimp only
  generalize asked : [Request.perform (.render "f+F"), _, _, _, _, _, _, _] = requests
  have started : (start (.blank ⟨none, some 1, some 2⟩ : Journal) .standard).result =
      .ok ⟨.blank ⟨none, some 1, some 2⟩, .standard⟩ := rfl
  obtain ⟨drawable, latest, refused, -⟩ := setup_in_force started requests
  have last : inForce (askAll requests
      (⟨.blank ⟨none, some 1, some 2⟩, .standard⟩ : Session Journal)).1 .standard =
        { Setup.demo with viewport := ⟨1920, 600⟩ } := by
    subst asked
    rfl
  exact ⟨started, last, latest.trans last, drawable, (refused _ _ rfl).1⟩

end Session

end TurtleGraphics
