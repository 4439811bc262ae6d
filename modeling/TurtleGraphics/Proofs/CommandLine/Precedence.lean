import TurtleGraphics.Proofs.CommandLine.Endings

set_option autoImplicit false

/-!
# What takes precedence

An option overrides the one part of a setup that it is about. All other parts come from the setup
file if one is named, else from the standard setup, where the demonstration moves in its own way.
-/

namespace TurtleGraphics.CommandLine

/-- The value is the given one, or the other one if none is given. -/
def IsGivenOr {α : Type} (given : α → Prop) (otherwise value : α) : Prop :=
  (∀ other, given other → value = other) ∧ ((∀ other, ¬ given other) → value = otherwise)

/-- The setup to which the options are applied. -/
inductive IsBase (entries : List Entry) (readFile : String → Except FileFault String) :
    Setup → Prop
  | file {path text : String} {setup : Setup} : .path .setup path ∈ entries →
      readFile path = .ok text → Setup.ofText text = .ok setup → IsBase entries readFile setup
  | standard {text : String} : (∀ path, .path .setup path ∉ entries) →
      .commands text ∈ entries → IsBase entries readFile .standard
  | demo : (∀ path, .path .setup path ∉ entries) → (∀ text, .commands text ∉ entries) →
      IsBase entries readFile { Setup.standard with motion := .demo }

theorem isGivenOr_getD {α : Type} {given : α → Prop} {held : Option α}
    (holds : ∀ value, held = some value ↔ given value) (otherwise : α) :
    IsGivenOr given otherwise (held.getD otherwise) := by
  constructor
  · intro value isGiven
    rw [(holds value).mpr isGiven, Option.getD_some]
  · intro absent
    rw [eq_none_of_absent holds absent, Option.getD_none]

namespace Request

variable {request : Request} {entries : List Entry} {readFile : String → Except FileFault String}

theorem exists_isBase (holds : ∀ entry, request.Holds entry ↔ entry ∈ entries)
    (loads : ∀ path, .path .setup path ∈ entries →
      ∃ text file, readFile path = .ok text ∧ Setup.ofText text = .ok file) :
    ∃ base, IsBase entries readFile base := by
  cases named : request.setupPath with
  | some path =>
      have given := (holds (.path .setup path)).mp named
      obtain ⟨text, file, read, loaded⟩ := loads path given
      exact ⟨file, .file given read loaded⟩
  | none =>
      have absent : ∀ path, .path .setup path ∉ entries := by
        intro path given
        cases named.symm.trans ((holds (.path .setup path)).mpr given)
      cases commands : request.commands with
      | some text => exact ⟨_, .standard absent ((holds (.commands text)).mp commands)⟩
      | none =>
          refine ⟨_, .demo absent ?_⟩
          intro text given
          cases commands.symm.trans ((holds (.commands text)).mpr given)

theorem baseSetup_of_isBase (holds : ∀ entry, request.Holds entry ↔ entry ∈ entries)
    {base : Setup} (isBase : IsBase entries readFile base) :
    request.baseSetup readFile = .ok base := by
  have setupPath (path : String) : request.setupPath = some path ↔ .path .setup path ∈ entries :=
    holds (.path .setup path)
  have commands (text : String) : request.commands = some text ↔ .commands text ∈ entries :=
    holds (.commands text)
  cases isBase with
  | @file path text setup given read loaded =>
      simp only [baseSetup, (setupPath path).mpr given, read, loaded]
  | @standard text absent given =>
      simp [baseSetup, eq_none_of_absent setupPath absent, (commands text).mpr given]
  | demo absent missing =>
      simp only [baseSetup, eq_none_of_absent setupPath absent,
        eq_none_of_absent commands missing]
      rfl

end Request

namespace Intent

/-- Options come before the setup file, the file before the demonstration, and that before the
standard setup, in each part of the setup by itself. Neither the order of the arguments nor the way
in which an option is joined to its value makes a difference. -/
theorem setup_by_precedence {arguments : List String} {request : Request}
    (accepted : ofArguments arguments = .draw request)
    (readFile : String → Except FileFault String) :
    (∃ entries, Gives true arguments entries) ∧
    ∀ entries, Gives true arguments entries →
      ((∀ path, .path .setup path ∈ entries →
        ∃ text file, readFile path = .ok text ∧ Setup.ofText text = .ok file) →
          ∃ base, IsBase entries readFile base) ∧
      ∀ base, IsBase entries readFile base →
        ∃ (setup : Setup) (commands : String),
          request.setup readFile = .ok setup ∧ request.drawnCommands = commands ∧
          ((∀ path, .path .image path ∉ entries) →
            ((ofArguments arguments).answer readFile).output =
              (Report.ofSetup setup commands).text) ∧
          IsGivenOr (.number .step · ∈ entries) base.motion.step setup.motion.step ∧
          IsGivenOr (.number .delta · ∈ entries) base.motion.delta setup.motion.delta ∧
          IsGivenOr (.number .heading · ∈ entries) base.motion.heading setup.motion.heading ∧
          IsGivenOr (.number .startX · ∈ entries) base.motion.start.x setup.motion.start.x ∧
          IsGivenOr (.number .startY · ∈ entries) base.motion.start.y setup.motion.start.y ∧
          (.switch .bracketed ∈ entries → setup.alphabet = .bracketed) ∧
          (.switch .bracketed ∉ entries → setup.alphabet = base.alphabet) ∧
          setup.viewport = base.viewport ∧ setup.scale = base.scale ∧ setup.style = base.style ∧
          IsGivenOr (.commands · ∈ entries) Setup.demoCommands commands := by
  refine ⟨exists_gives accepted, ?_⟩
  intro entries gives
  have holds := holds_iff_mem accepted gives
  refine ⟨Request.exists_isBase holds, ?_⟩
  intro base isBase
  have loaded : request.setup readFile = .ok (request.override base) := by
    rw [Request.setup, Request.baseSetup_of_isBase holds isBase]
    rfl
  have number (option : NumberOption) (otherwise : Float) :
      IsGivenOr (.number option · ∈ entries) otherwise
        ((request.number option).getD otherwise) :=
    isGivenOr_getD (fun value => holds (.number option value)) otherwise
  have bracketed : request.bracketed = true ↔ .switch .bracketed ∈ entries :=
    holds (.switch .bracketed)
  refine ⟨request.override base, request.drawnCommands, loaded, rfl, ?_, number .step _,
    number .delta _, number .heading _, number .startX _, number .startY _, ?_, ?_, rfl, rfl, rfl,
    isGivenOr_getD (fun text => holds (.commands text)) _⟩
  · intro unwanted
    have imagePath (path : String) :
        request.imagePath = some path ↔ .path .image path ∈ entries := holds (.path .image path)
    have noImage := eq_none_of_absent imagePath unwanted
    rw [accepted]
    exact (Request.answer_of_printed loaded noImage).2.2
  · intro given
    exact if_pos (bracketed.mpr given)
  · intro absent
    exact if_neg (mt bracketed.mp absent)

/-- A setup file, three options and one of their values begin with hyphens, and so do the commands.
The step of the file is overridden, its turn is not, and the rest of the motion is standard. -/
theorem setup_by_precedence_mixed :
    let readFile (path : String) : Except FileFault String :=
      if path = "turtle.json" then
        .ok "\x7b\"scale\": 2, \"params\": \x7b\"step\": 7, \"delta\": 45\x7d\x7d"
      else .error .missing
    let arguments :=
      ["--start-y=-2", "-F[", "--config", "turtle.json", "--bracketed", "--step", "-0.5"]
    let request := { Request.blank with
      commands := some "-F[", step := some (-0.5), startY := some (-2.0),
      setupPath := some "turtle.json", bracketed := true }
    ofArguments arguments = .draw request ∧
      ∃ setup, request.setup readFile = .ok setup ∧
        ((ofArguments arguments).answer readFile).output = (Report.ofSetup setup "-F[").text ∧
        setup.motion.step = -0.5 ∧ setup.motion.delta = 45.0 ∧ setup.motion.heading = 90.0 ∧
        setup.motion.start.x = 0.0 ∧ setup.motion.start.y = -2.0 ∧
        setup.alphabet = .bracketed ∧ setup.scale = 2.0 := by
  intro readFile arguments request
  have accepted : ofArguments arguments = .draw request := by decide
  have loaded : Setup.ofText
      "\x7b\"scale\": 2, \"params\": \x7b\"step\": 7, \"delta\": 45\x7d\x7d" =
        .ok { Setup.standard with
          scale := 2.0, motion := { Motion.standard with step := 7.0, delta := 45.0 } } := by rfl
  obtain ⟨⟨entries, gives⟩, resolved⟩ := setup_by_precedence accepted readFile
  have holds := holds_iff_mem accepted gives
  have absent : ∀ {entry}, ¬ request.Holds entry → entry ∉ entries := by
    intro entry missing given
    exact missing ((holds entry).mpr given)
  have isBase : IsBase entries readFile _ :=
    .file ((holds (.path .setup "turtle.json")).mp rfl) rfl loaded
  obtain ⟨setup, commands, complete, drawn, output, step, delta, heading, startX, startY,
    bracketed, -, -, scale, -⟩ := (resolved entries gives).2 _ isBase
  subst drawn
  refine ⟨accepted, setup, complete, output ?_, step.1 _ ((holds (.number .step (-0.5))).mp rfl),
    delta.2 ?_, heading.2 ?_, startX.2 ?_, startY.1 _ ((holds (.number .startY (-2.0))).mp rfl),
    bracketed ((holds (.switch .bracketed)).mp rfl), scale⟩
  all_goals
    intro value
    exact absent nofun

end Intent

end TurtleGraphics.CommandLine
