import TurtleGraphics.Drawing.Counting
import TurtleGraphics.Proofs.Drawing.Requests
import TurtleGraphics.Proofs.Drawing.Unhindered

set_option autoImplicit false

/-!
# Sessions side by side

Surfaces of two types can be coupled by a relation under which all calls are answered alike and
which all calls keep. No answer tells sessions on coupled surfaces apart, so what is known about
the one surface carries over to the other.
-/

namespace TurtleGraphics

def Surface.Couples {σ τ : Type} [Surface σ] [Surface τ] (related : σ → τ → Prop) : Prop :=
  ∀ call first second, related first second →
    (perform call first).1 = (perform call second).1 ∧
      related (perform call first).2 (perform call second).2

namespace Session

def Response.ofResult {α : Type} (settled : α → Response) : Except Failure α → Response
  | .ok value => settled value
  | .error failure => .refused failure

theorem perform_render {σ : Type} [Surface σ] (session : Session σ) (commands : String) :
    let drawing := session.render commands
    session.perform (.render commands) =
      (.ofResult .drawn drawing.result, drawing.session, drawing.events) := by
  rw [perform]
  rcases session.render commands with ⟨_ | _, _, _⟩ <;> rfl

theorem perform_reconfigure {σ : Type} [Surface σ] (session : Session σ) (setup : Setup) :
    session.perform (.reconfigure setup) =
      (.ofResult (fun _ => .accepted) (session.reconfigure setup).result,
        (session.reconfigure setup).session, (session.reconfigure setup).events) := by
  rw [perform]
  rcases session.reconfigure setup with ⟨_ | _, _, _⟩ <;> rfl

variable {σ τ : Type} {related : σ → τ → Prop}

/-- Two sessions with the same setup in force, on related surfaces. -/
structure Abreast (related : σ → τ → Prop) (first : Session σ) (second : Session τ) : Prop where
  setup : first.setup = second.setup
  surface : related first.surface second.surface

theorem Abreast.reconfigure {first : Session σ} {second : Session τ}
    (abreast : first.Abreast related second) (setup : Setup) :
    (first.reconfigure setup).result = (second.reconfigure setup).result ∧
      (first.reconfigure setup).session.Abreast related (second.reconfigure setup).session := by
  cases checked : setup.undrawable? with
  | none =>
      rw [reconfigure_of_drawable checked, reconfigure_of_drawable checked]
      exact ⟨rfl, rfl, abreast.surface⟩
  | some cause =>
      rw [reconfigure_of_undrawable checked, reconfigure_of_undrawable checked]
      exact ⟨rfl, abreast⟩

end Session

namespace Surface.Couples

variable {σ τ : Type} [Surface σ] [Surface τ] {related : σ → τ → Prop}

theorem performAll (couples : Couples related) (calls : List Call) {first : σ} {second : τ}
    (held : related first second) :
    (Surface.performAll calls first).1 = (Surface.performAll calls second).1 ∧
      related (Surface.performAll calls first).2 (Surface.performAll calls second).2 := by
  induction calls generalizing first second with
  | nil => exact ⟨rfl, held⟩
  | cons call calls ih =>
      obtain ⟨alike, kept⟩ := couples call first second held
      rcases firstly : perform call first with ⟨answer, firstNext⟩
      rcases secondly : perform call second with ⟨other, secondNext⟩
      simp only [firstly, secondly] at alike kept
      subst alike
      simp only [Surface.performAll, firstly, secondly]
      cases answer with
      | error failure => exact ⟨rfl, kept⟩
      | ok accepted => exact ih kept

variable {first : Session σ} {second : Session τ}

theorem render (couples : Couples related) (abreast : first.Abreast related second)
    (commands : String) :
    (first.render commands).result = (second.render commands).result ∧
      (first.render commands).session.Abreast related (second.render commands).session := by
  obtain ⟨firstResult, firstAfter⟩ := first.render_eq commands
  obtain ⟨secondResult, secondAfter⟩ := second.render_eq commands
  obtain ⟨alike, kept⟩ := couples.performAll (first.setup.calls commands) abreast.surface
  rw [firstResult, firstAfter, secondResult, secondAfter, ← abreast.setup, alike]
  exact ⟨rfl, rfl, kept⟩

theorem perform (couples : Couples related) (abreast : first.Abreast related second)
    (operation : Session.Operation) :
    (first.perform operation).1 = (second.perform operation).1 ∧
      (first.perform operation).2.1.Abreast related (second.perform operation).2.1 := by
  cases operation with
  | render commands =>
      obtain ⟨alike, kept⟩ := couples.render abreast commands
      rw [Session.perform_render, Session.perform_render, alike]
      exact ⟨rfl, kept⟩
  | reconfigure setup =>
      obtain ⟨alike, kept⟩ := abreast.reconfigure setup
      rw [Session.perform_reconfigure, Session.perform_reconfigure, alike]
      exact ⟨rfl, kept⟩

theorem askAll (couples : Couples related) (abreast : first.Abreast related second)
    (requests : List Session.Request) :
    (first.askAll requests).2.Abreast related (second.askAll requests).2 := by
  induction requests generalizing first second with
  | nil => exact abreast
  | cons request requests ih =>
      cases request with
      | perform operation => exact ih (couples.perform abreast operation).2
      | showSetup => exact ih abreast
      | showSurface => exact ih abreast

end Surface.Couples

/-! ### Counting what is recorded -/

namespace Counting

def Counts (counting : Counting) (recording : Recording) : Prop :=
  counting.segments = recording.segments.size ∧ counting.presented = recording.presented

theorem couples : Surface.Couples Counts := by
  intro call counting recording counts
  obtain ⟨segments, presented⟩ := counts
  refine ⟨rfl, ?_⟩
  cases call with
  | begin style => exact ⟨rfl, rfl⟩
  | draw segment =>
      refine ⟨?_, presented⟩
      simp [after, Recording.after, segments]
  | present => exact ⟨segments, rfl⟩

theorem counts_blank : blank.Counts .blank := ⟨rfl, rfl⟩

/-- Counting and recording keep pace, call by call in any order, and no session tells them apart.
A row of calls or requests stands for each moment at which it may be broken off. -/
theorem counts_recorded :
    (∀ calls : List Call,
      let counted := Surface.performAll calls blank
      let recorded := Surface.performAll calls Recording.blank
      counted.1 = .ok () ∧ recorded.1 = .ok () ∧ counted.2.Counts recorded.2) ∧
    ∀ setup : Setup,
      (∃ failure, (Session.start blank setup).result = .error failure ∧
        (Session.start Recording.blank setup).result = .error failure) ∨
      ∃ counting recording, (Session.start blank setup).result = .ok counting ∧
        (Session.start Recording.blank setup).result = .ok recording ∧
        ∀ requests : List Session.Request,
          let counted := (counting.askAll requests).2
          let recorded := (recording.askAll requests).2
          counted.surface.Counts recorded.surface ∧ counted.setup = recorded.setup ∧
          ∀ operation, (counted.perform operation).1 = (recorded.perform operation).1 := by
  constructor
  · intro calls counted recorded
    obtain ⟨alike, counts⟩ := couples.performAll calls counts_blank
    have accepted : recorded.1 = .ok () := Recording.blank.willing calls
    exact ⟨alike.trans accepted, accepted, counts⟩
  · intro setup
    cases checked : setup.undrawable? with
    | some cause =>
        left
        refine ⟨.undrawable cause, ?_, ?_⟩ <;> simp only [Session.start, checked]
    | none =>
        right
        refine ⟨⟨blank, setup⟩, ⟨.blank, setup⟩, ?_, ?_, ?_⟩
        · simp only [Session.start, checked]
        · simp only [Session.start, checked]
        · intro requests counted recorded
          have abreast : counted.Abreast Counts recorded :=
            couples.askAll ⟨rfl, counts_blank⟩ requests
          refine ⟨abreast.surface, abreast.setup, ?_⟩
          intro operation
          exact (couples.perform abreast operation).1

end Counting

end TurtleGraphics
