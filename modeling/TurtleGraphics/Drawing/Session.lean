import TurtleGraphics.Drawing.Event
import TurtleGraphics.Drawing.Surface
import TurtleGraphics.Turtle.Cursor

set_option autoImplicit false

/-!
# Drawing sessions

A session is a surface together with the setup in force. It draws any number of command texts, each
with a fresh cursor, and its setup can be exchanged between drawings.

Drawing reads the commands from left to right and hands each segment to the surface before it looks
at the next character, so a refused call leaves the surface with all that was drawn until then.
-/

namespace TurtleGraphics

/-- What a drawing counted. -/
structure Tally where
  segments : Nat
  /-- Steps, drawn or not. -/
  moves : Nat
  turns : Nat
  /-- Characters that are no commands. -/
  ignored : Nat
  /-- Commands to restore the cursor that found none saved. -/
  unmatchedPops : Nat
deriving DecidableEq, Inhabited

def Tally.zero : Tally := ⟨0, 0, 0, 0, 0⟩

/-- What a completed drawing comes to: the cursor after the last character, and the counts. -/
structure Outcome where
  cursor : Cursor
  tally : Tally
deriving DecidableEq, Inhabited

/-- A drawing in progress. The cursor saved last stands first. -/
structure Progress (σ : Type) where
  surface : σ
  cursor : Cursor
  saved : List Cursor
  tally : Tally
  events : Array Event

namespace Progress

variable {σ : Type} [Surface σ]

def report (progress : Progress σ) (event : Event) : Progress σ :=
  { progress with events := progress.events.push event }

def ignore (progress : Progress σ) (symbol : Char) : Progress σ :=
  let tally := progress.tally
  { progress.report (.ignoredSymbol symbol) with
    tally := { tally with ignored := tally.ignored + 1 } }

def push (progress : Progress σ) : Progress σ :=
  { progress with saved := progress.cursor :: progress.saved }

/-- Restores the cursor saved last. The cursor stays if there is none. -/
def pop (progress : Progress σ) : Progress σ :=
  match progress.saved with
  | cursor :: saved => { progress with cursor, saved }
  | [] =>
    let tally := progress.tally
    { progress.report .unmatchedPop with
      tally := { tally with unmatchedPops := tally.unmatchedPops + 1 } }

/-- Steps to a new cursor, drawing the segment if there is one. If the surface refuses the segment,
neither the cursor nor the counts change. -/
def stepTo (progress : Progress σ) (next : Cursor) (segment : Option Segment) :
    Except Failure Unit × Progress σ :=
  match progress, segment with
  | ⟨surface, cursor, saved, tally, events⟩, some segment =>
    match Surface.perform (.draw segment) surface with
    | (.ok (), surface) =>
      let tally := { tally with segments := tally.segments + 1, moves := tally.moves + 1 }
      (.ok (), ⟨surface, next, saved, tally, events⟩)
    | (.error failure, surface) => (.error failure, ⟨surface, cursor, saved, tally, events⟩)
  | ⟨surface, _, saved, tally, events⟩, none =>
    (.ok (), ⟨surface, next, saved, { tally with moves := tally.moves + 1 }, events⟩)

def turnTo (progress : Progress σ) (next : Cursor) : Progress σ :=
  let tally := progress.tally
  { progress with cursor := next, tally := { tally with turns := tally.turns + 1 } }

def follow (motion : Motion) (progress : Progress σ) (command : Command) :
    Except Failure Unit × Progress σ :=
  match command with
  | .push => (.ok (), progress.push)
  | .pop => (.ok (), progress.pop)
  | .forward | .move =>
    let (next, segment) := progress.cursor.apply command motion.step motion.delta
    progress.stepTo next segment
  | .turnLeft | .turnRight =>
    let (next, _) := progress.cursor.apply command motion.step motion.delta
    (.ok (), progress.turnTo next)

def read (motion : Motion) (alphabet : Alphabet) (progress : Progress σ) (symbol : Char) :
    Except Failure Unit × Progress σ :=
  match Command.ofSymbol? alphabet symbol with
  | some command => progress.follow motion command
  | none => (.ok (), progress.ignore symbol)

/-- Reads characters up to the first one whose segment is refused. -/
def readAll (motion : Motion) (alphabet : Alphabet) :
    List Char → Progress σ → Except Failure Unit × Progress σ
  | [], progress => (.ok (), progress)
  | symbol :: symbols, progress =>
    match progress.read motion alphabet symbol with
    | (.ok (), next) => readAll motion alphabet symbols next
    | (.error failure, stopped) => (.error failure, stopped)

end Progress

structure Session (σ : Type) where
  surface : σ
  setup : Setup

/-- What came of an operation on a session: what it returned, or the failure that ended it, the
session after it, and what it reported. -/
structure Effect (σ α : Type) where
  result : Except Failure α
  session : Session σ
  events : Array Event

/-- What came of the wish for a session. -/
structure Opening (σ : Type) where
  result : Except Failure (Session σ)
  events : Array Event

namespace Session

variable {σ : Type}

/-- A session on a surface, unless nothing can be drawn with the setup. -/
def start (surface : σ) (setup : Setup) : Opening σ :=
  match setup.undrawable? with
  | some cause => ⟨.error (.undrawable cause), #[]⟩
  | none => ⟨.ok ⟨surface, setup⟩, #[]⟩

/-- Exchanges the setup. A setup with which nothing can be drawn is refused, and the one in force
stays. -/
def reconfigure (session : Session σ) (setup : Setup) : Effect σ Unit :=
  match setup.undrawable? with
  | some cause => ⟨.error (.undrawable cause), session, #[]⟩
  | none => ⟨.ok (), { session with setup }, #[]⟩

def startCursor (setup : Setup) : Cursor :=
  .facing setup.motion.start setup.motion.heading

def startEvent (setup : Setup) (commands : String) : Event :=
  .renderStart commands.utf8ByteSize setup.motion.step setup.motion.delta
    (startCursor setup).heading setup.alphabet

def doneEvent (outcome : Outcome) : Event :=
  .renderDone outcome.tally.segments outcome.tally.ignored outcome.cursor.position.x
    outcome.cursor.position.y outcome.cursor.heading

/-- Draws a command text on the surface and shows it. Characters that are no commands are passed
over. The first call that the surface refuses ends the drawing, and its failure is the result. -/
def render [Surface σ] (session : Session σ) (commands : String) : Effect σ Outcome :=
  match session with
  | ⟨surface, setup⟩ =>
    let started := #[startEvent setup commands]
    match Surface.perform (.begin setup.style) surface with
    | (.error failure, surface) => ⟨.error failure, ⟨surface, setup⟩, started⟩
    | (.ok (), surface) =>
      let progress : Progress σ := ⟨surface, startCursor setup, [], .zero, started⟩
      match progress.readAll setup.motion setup.alphabet commands.toList with
      | (.error failure, stopped) =>
        ⟨.error failure, ⟨stopped.surface, setup⟩, stopped.events⟩
      | (.ok (), ⟨surface, cursor, _, tally, events⟩) =>
        match Surface.perform .present surface with
        | (.error failure, surface) => ⟨.error failure, ⟨surface, setup⟩, events⟩
        | (.ok (), surface) =>
          let outcome : Outcome := ⟨cursor, tally⟩
          ⟨.ok outcome, ⟨surface, setup⟩, events.push (doneEvent outcome)⟩

theorem start_eq_ok_iff {surface : σ} {setup : Setup} {session : Session σ} :
    (start surface setup).result = .ok session ↔
      session = ⟨surface, setup⟩ ∧ setup.undrawable? = none := by
  cases checked : setup.undrawable? <;> simp [start, checked, eq_comm]

theorem start_of_drawable {surface : σ} {setup : Setup} (drawable : setup.undrawable? = none) :
    start surface setup = ⟨.ok ⟨surface, setup⟩, #[]⟩ := by
  simp only [start, drawable]

theorem reconfigure_of_undrawable {session : Session σ} {setup : Setup} {cause : Undrawable}
    (undrawable : setup.undrawable? = some cause) :
    session.reconfigure setup = ⟨.error (.undrawable cause), session, #[]⟩ := by
  simp only [reconfigure, undrawable]

theorem reconfigure_of_drawable {session : Session σ} {setup : Setup}
    (drawable : setup.undrawable? = none) :
    session.reconfigure setup = ⟨.ok (), { session with setup }, #[]⟩ := by
  simp only [reconfigure, drawable]

/-- Drawing never changes the setup in force, not even when it is interrupted. -/
@[simp] theorem render_setup [Surface σ] (session : Session σ) (commands : String) :
    (session.render commands).session.setup = session.setup := by
  simp only [render]
  repeat' split
  all_goals rfl

inductive Operation where
  | render (commands : String)
  | reconfigure (setup : Setup)

inductive Response where
  | drawn (outcome : Outcome)
  | accepted
  | refused (failure : Failure)

/-- Performs one operation. -/
def perform [Surface σ] (session : Session σ) (operation : Operation) :
    Response × Session σ × Array Event :=
  match operation with
  | .render commands =>
    match session.render commands with
    | ⟨.ok outcome, session, events⟩ => (.drawn outcome, session, events)
    | ⟨.error failure, session, events⟩ => (.refused failure, session, events)
  | .reconfigure setup =>
    match session.reconfigure setup with
    | ⟨.ok (), session, events⟩ => (.accepted, session, events)
    | ⟨.error failure, session, events⟩ => (.refused failure, session, events)

end Session

end TurtleGraphics
