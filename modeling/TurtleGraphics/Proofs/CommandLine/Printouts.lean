import TurtleGraphics.Proofs.CommandLine.Endings
import TurtleGraphics.Proofs.CommandLine.Room
import TurtleGraphics.Proofs.Drawing.Connections
import TurtleGraphics.Proofs.Json.Decoding

set_option autoImplicit false

/-!
# What the program prints

The printed text can be decoded to the drawing: to its commands character by character, its segments
in drawing order, and its outcome. It is the same whether or not it was asked for.
-/

namespace TurtleGraphics.CommandLine

open Json

/-! ### Asking for JSON -/

/-- The second arguments give all that the first ones give and ask for JSON, which the first ones do
not. No image is asked for. -/
def AddsJson (plain flagged : List String) : Prop :=
  ∃ entries flaggedEntries, Gives true plain entries ∧ Gives true flagged flaggedEntries ∧
    flaggedEntries.Perm (.switch .json :: entries) ∧ .switch .json ∉ entries ∧
    ∀ path, .path .image path ∉ entries

namespace Request

theorem answer_json (request : Request) (readFile : String → Except FileFault String)
    (noImage : request.imagePath = none) :
    let flagged := { request with json := true }
    (flagged.answer readFile).exit = (request.answer readFile).exit ∧
      (flagged.answer readFile).output = (request.answer readFile).output := by
  intro flagged
  have sameSetup : flagged.setup readFile = request.setup readFile := rfl
  cases loaded : request.setup readFile with
  | error failure =>
      rw [loaded] at sameSetup
      rw [answer, answer, sameSetup, loaded]
      exact ⟨rfl, rfl⟩
  | ok setup =>
      obtain ⟨plainExit, -, plainOutput⟩ := answer_of_printed loaded noImage
      obtain ⟨flaggedExit, -, flaggedOutput⟩ := answer_of_printed (sameSetup.trans loaded) noImage
      exact ⟨flaggedExit.trans plainExit.symm, flaggedOutput.trans plainOutput.symm⟩

/-- With one more switch the same request is filled, wherever the switch stands. -/
theorem addAll_json {entries flaggedEntries : List Entry}
    (permuted : flaggedEntries.Perm (.switch .json :: entries))
    (absent : .switch .json ∉ entries) :
    addAll flaggedEntries .blank =
      (addAll entries .blank).map fun request => { request with json := true } := by
  -- The switch may as well be given last, when all else is filled.
  have last : flaggedEntries.Perm (entries ++ [.switch .json]) :=
    permuted.trans (List.perm_append_singleton _ _).symm
  rw [addAll_perm last, addAll_append]
  cases added : addAll entries .blank with
  | none => rfl
  | some request =>
      have off : request.json = false := by
        rw [← Bool.not_eq_true]
        exact mt (holds_addAll_blank added (.switch .json)).mp absent
      simp [addAll, add, addSwitch, off]

end Request

theorem AddsJson.answer {plain flagged : List String} (adds : AddsJson plain flagged)
    (readFile : String → Except FileFault String) :
    ((Intent.ofArguments flagged).answer readFile).exit =
        ((Intent.ofArguments plain).answer readFile).exit ∧
      ((Intent.ofArguments flagged).answer readFile).output =
        ((Intent.ofArguments plain).answer readFile).output := by
  obtain ⟨entries, flaggedEntries, gives, givesFlagged, permuted, absent, unwanted⟩ := adds
  have plainRead : Intent.ofArguments plain = Request.finishWith entries .blank := gives.read rfl
  have flaggedRead : Intent.ofArguments flagged = Request.finishWith flaggedEntries .blank :=
    givesFlagged.read rfl
  rw [plainRead, flaggedRead, Request.finishWith, Request.finishWith,
    Request.addAll_json permuted absent]
  cases added : Request.addAll entries .blank with
  | none => exact ⟨rfl, rfl⟩
  | some request =>
      have noImage : request.imagePath = none :=
        eq_none_of_absent (fun path => Request.holds_addAll_blank added (.path .image path))
          unwanted
      have plainFinished : request.finish = .draw request := by simp [Request.finish, noImage]
      have flaggedFinished : Request.finish { request with json := true } =
          .draw { request with json := true } := by simp [Request.finish, noImage]
      simp only [Option.map_some, plainFinished, flaggedFinished]
      exact request.answer_json readFile noImage

namespace Intent

variable {arguments : List String} {request : Request}

/-- A drawing that comes off has been printed. -/
theorem output_of_completed (accepted : ofArguments arguments = .draw request)
    {readFile : String → Except FileFault String}
    (completed : ((ofArguments arguments).answer readFile).exit = 0) :
    ∃ setup, request.setup readFile = .ok setup ∧
      ((ofArguments arguments).answer readFile).output =
        (printout request.drawnCommands
          (setup.motion.segments setup.alphabet request.drawnCommands)
          (setup.motion.outcome setup.alphabet request.drawnCommands)).indented ++ "\n" := by
  rw [answer_of_accepted accepted] at completed ⊢
  cases loaded : request.setup readFile with
  | error failure =>
      rw [Request.answer, loaded] at completed
      cases completed
  | ok setup =>
      cases image : request.imagePath with
      | some path =>
          have json := json_eq_false_of_image accepted image
          rw [Request.answer_of_image loaded json image] at completed
          cases completed
      | none =>
          obtain ⟨-, -, output⟩ := Request.answer_of_printed loaded image
          exact ⟨setup, rfl, output.trans (Report.text_ofSetup setup request.drawnCommands)⟩

/-- The printed text of a drawing that comes off can be decoded in one way, in which it gives the
commands of the drawing. As far as the numerals of finite doubles are read back, it also gives one
segment for each step, and the outcome. Asking for JSON changes neither the text nor the exit
code. -/
theorem printout_decoded (readFile : String → Except FileFault String) :
    (∀ arguments request, ofArguments arguments = .draw request →
      let answer := (ofArguments arguments).answer readFile
      let commands := request.drawnCommands
      answer.exit = 0 → ∃ setup segments outcome,
        request.setup readFile = .ok setup ∧ setup.Draws commands segments outcome ∧
        segments.length = commands.toList.count 'F' ∧
        (∀ before after, commands.toList = before ++ 'F' :: after →
          ∃ drawn reached rest, setup.Draws (String.ofList before) drawn reached ∧
            drawn.length = before.count 'F' ∧
            segments = drawn ++ reached.cursor.stroke setup.motion.step :: rest) ∧
        let document := printout commands segments outcome
        ∃ value, PrintedAs answer.output value ∧
          (∀ other, IsText other answer.output → other = value) ∧
          (∃ key pieces members, value = .object ((key, .text pieces) :: members) none ∧
            decode key none = .ok "commands".toList ∧ decode pieces none = .ok commands.toList) ∧
          (Document.ReadBack document.doubles → document.IsHeldBy value)) ∧
    ∀ plain flagged, AddsJson plain flagged →
      let answer := (ofArguments plain).answer readFile
      let other := (ofArguments flagged).answer readFile
      other.exit = answer.exit ∧ other.output = answer.output := by
  refine ⟨?_, fun plain flagged adds => adds.answer readFile⟩
  intro arguments request accepted answer commands completed
  obtain ⟨setup, loaded, output⟩ := output_of_completed accepted completed
  refine ⟨setup, _, _, loaded, setup.draws commands, Motion.length_segments _ _ _, ?_, ?_⟩
  · intro before after spelled
    obtain ⟨rest, drawn⟩ := Motion.segments_forward spelled
    refine ⟨_, _, rest, setup.draws (String.ofList before), ?_, drawn⟩
    rw [Motion.length_segments, String.toList_ofList]
  · intro document
    have printedAs : PrintedAs answer.output document.value := by
      rw [output]
      exact printedAs_indented document
    exact ⟨document.value, printedAs, fun other isText => isText.unique printedAs.isText,
      ⟨_, _, _, rfl, decode_textPieces "commands", decode_textPieces commands⟩,
      document.isHeldBy_value⟩

/-- Quotes, a backslash, an accent, a control character and a line break come back. From the first
step on the turtle is nowhere, so all but the first point is `null`. -/
theorem printout_decoded_nowhere :
    let readFile (_ : String) : Except FileFault String := .error .missing
    let commands := "F\"\\é\x01\nF"
    let plain := ["--heading", "nan", commands, "--start-x=1.5"]
    let flagged := ["--start-x", "1.5", "--json", commands, "--heading=nan"]
    let answer := (ofArguments plain).answer readFile
    let other := (ofArguments flagged).answer readFile
    let request := { Request.blank with
      commands := some commands, heading := some (0.0 / 0.0), startX := some 1.5 }
    ofArguments plain = .draw request ∧ answer.exit = 0 ∧ AddsJson plain flagged ∧
      other.exit = answer.exit ∧ other.output = answer.output ∧
      ∃ segments outcome value, segments.length = 2 ∧ PrintedAs answer.output value ∧
        (printout commands segments outcome).IsHeldBy value := by
  intro readFile commands plain flagged answer other request
  have accepted : ofArguments plain = .draw request := by decide
  let setup := request.override .standard
  have loaded : request.setup readFile = .ok setup := rfl
  have completed : answer.exit = 0 := by
    simp only [answer, accepted]
    exact (Request.answer_of_printed loaded rfl).1
  have adds : AddsJson plain flagged := by
    have free : ¬ IsOption commands := Shape.isPathValue_true_iff.mp (by decide)
    have heading : Spells true ["--" ++ NumberOption.heading.name, "nan"]
        (.number .heading (0.0 / 0.0)) := .number rfl
    have startX : Spells false ["--" ++ NumberOption.startX.name ++ "=" ++ "1.5"]
        (.number .startX 1.5) := .attachedNumber rfl
    have laterHeading : Spells false ["--" ++ NumberOption.heading.name ++ "=" ++ "nan"]
        (.number .heading (0.0 / 0.0)) := .attachedNumber rfl
    have earlierStartX : Spells true ["--" ++ NumberOption.startX.name, "1.5"]
        (.number .startX 1.5) := .number rfl
    have json : Spells true ["--" ++ Switch.json.name] (.switch .json) := .switch
    refine ⟨_, _, .entry heading (.entry (.commands rfl free) (.entry startX .done)),
      .entry earlierStartX (.entry json (.entry (.commands rfl free) (.entry laterHeading .done))),
      ?_, nofun, nofun⟩
    exact (List.Perm.swap _ _ _).trans ((List.reverse_perm [_, _, _]).cons _)
  have decoded := printout_decoded readFile
  obtain ⟨sameExit, sameOutput⟩ := decoded.2 plain flagged adds
  obtain ⟨_, segments, outcome, resolved, draws, length, -, value, printedAs, -, -, holds⟩ :=
    decoded.1 plain request accepted completed
  cases loaded.symm.trans resolved
  obtain ⟨rfl, rfl⟩ := draws.unique (setup.draws commands)
  have readBack : Document.ReadBack (printout commands (setup.motion.segments .basic commands)
      (setup.motion.outcome .basic commands)).doubles := by
    have listed : ∀ double ∈ (printout commands (setup.motion.segments .basic commands)
        (setup.motion.outcome .basic commands)).doubles,
        ReadsBack double ∨ double.isFinite = false := by decide +kernel
    intro double member finite
    obtain readsBack | infinite := listed double member
    · exact readsBack
    · cases infinite.symm.trans finite
  exact ⟨accepted, completed, adds, sameExit, sameOutput, _, _, value, length.trans (by decide),
    printedAs, holds readBack⟩

end Intent

end TurtleGraphics.CommandLine
