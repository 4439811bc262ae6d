import TurtleGraphics.CommandLine.Program
import TurtleGraphics.Proofs.CommandLine.Filling
import TurtleGraphics.Proofs.Drawing.LastDrawing
import TurtleGraphics.Proofs.Drawing.RoundTrip

set_option autoImplicit false

/-!
# How the program ends

A setup that is drawable stays so whatever options are applied to it, so a drawing that was begun is
always printed. Only a setup file can keep the program from drawing, and only the wish for an image
can keep it from printing.
-/

namespace TurtleGraphics

theorem textOfBytes_toUTF8 (text : String) : textOfBytes text.toUTF8 = .ok text := by
  have valid : text.toUTF8.IsValidUTF8 := text.isValidUTF8
  unfold textOfBytes String.fromUTF8?
  rw [dif_pos valid]
  rfl

theorem textOfBytes_cases (bytes : ByteArray) :
    (∃ text : String, text.toUTF8 = bytes) ∨
      (∀ text : String, text.toUTF8 ≠ bytes) ∧ textOfBytes bytes = .error .notText := by
  by_cases valid : bytes.IsValidUTF8
  · exact .inl ⟨.fromUTF8 bytes valid, rfl⟩
  · right
    constructor
    · rintro text rfl
      exact valid text.isValidUTF8
    · unfold textOfBytes String.fromUTF8?
      rw [dif_neg valid]

namespace CommandLine

open Json

/-- The text of a file, of which the disk holds the bytes. -/
def readText (disk : String → Except FileFault ByteArray) (path : String) :
    Except FileFault String :=
  (disk path).bind textOfBytes

/-- What can be wrong with a setup file, in the words in which it is reported. -/
inductive SetupFault (disk : String → Except FileFault ByteArray) (path : String) : String → Prop
  | unreadable {fault : FileFault} : disk path = .error fault →
      SetupFault disk path ("io error: " ++ fault.message)
  | notText {bytes : ByteArray} : disk path = .ok bytes →
      (∀ text : String, text.toUTF8 ≠ bytes) →
      SetupFault disk path "io error: stream did not contain valid UTF-8"
  | malformed {text : String} {fault : Fault} {position : Position} :
      disk path = .ok text.toUTF8 → Setup.record.form.readText text = .error fault →
      Setup.record.form.position text = position →
      SetupFault disk path ("invalid config: " ++ fault.message ++ " at line " ++
        toString position.line ++ " column " ++ toString position.column)
  | undrawable {text : String} {setup : Setup} {cause : Undrawable} :
      disk path = .ok text.toUTF8 → Setup.record.form.readText text = .ok setup →
      setup.undrawable? = some cause → SetupFault disk path cause.message

theorem message_setupText (fault : Fault) (position : Position) :
    (Failure.setupText ⟨fault, position⟩).message =
      "invalid config: " ++ fault.message ++ " at line " ++ toString position.line ++
        " column " ++ toString position.column := by
  have message : (Failure.setupText ⟨fault, position⟩).message =
      "invalid config: " ++ (fault.message ++ " at line " ++ toString position.line ++
        " column " ++ toString position.column) := rfl
  rw [message]
  -- The wording of the fault is of no concern, and the simplifier would look into it.
  generalize fault.message = wording
  simp only [String.append_assoc]

/-! ### Printed reports -/

/-- The object that a printed drawing is to be decoded as. -/
def printout (commands : String) (segments : List Segment) (outcome : Outcome) : Document :=
  let point (point : Point) : Document := .object [("x", .number point.x), ("y", .number point.y)]
  .object [
    ("commands", .text commands),
    ("segments", .list (segments.map fun segment =>
      .object [("from", point segment.start), ("to", point segment.finish)])),
    ("position", point outcome.cursor.position),
    ("heading", .number outcome.cursor.heading),
    ("ignored_symbols", .count outcome.tally.ignored)]

/-- The output is a text that spells the value, and a line end. -/
def PrintedAs (output : String) (value : Value) : Prop :=
  ∃ text, output = text ++ "\n" ∧ Spelled (.value value) text.toList

theorem PrintedAs.isText {output : String} {value : Value} (printed : PrintedAs output value) :
    IsText value output := by
  obtain ⟨text, rfl, spelled⟩ := printed
  have lineEnd : IsBlanks ['\n'] := List.forall_mem_singleton.mpr rfl
  exact ⟨[], text.toList, ['\n'], isBlanks_nil, lineEnd, spelled, by simp⟩

theorem printedAs_indented (document : Document) :
    PrintedAs (document.indented ++ "\n") document.value := by
  refine ⟨document.indented, rfl, ?_⟩
  rw [Document.indented, String.toList_ofList]
  exact spelled_indentedChars 0 document

def Report.ofSetup (setup : Setup) (commands : String) : Report :=
  let outcome := setup.motion.outcome setup.alphabet commands
  { commands
    segments := setup.motion.segments setup.alphabet commands
    position := outcome.cursor.position
    heading := outcome.cursor.heading
    ignored := outcome.tally.ignored }

theorem Report.document_ofSetup (setup : Setup) (commands : String) :
    (ofSetup setup commands).document =
      printout commands (setup.motion.segments setup.alphabet commands)
        (setup.motion.outcome setup.alphabet commands) := rfl

theorem Report.text_ofSetup (setup : Setup) (commands : String) :
    (ofSetup setup commands).text =
      (printout commands (setup.motion.segments setup.alphabet commands)
        (setup.motion.outcome setup.alphabet commands)).indented ++ "\n" := by
  rw [text, document_ofSetup]

theorem printReport_of_drawable {setup : Setup} (drawable : setup.undrawable? = none)
    (commands : String) (events : List Event) :
    let answer := printReport commands setup events
    answer.exit = 0 ∧ answer.output = (Report.ofSetup setup commands).text ∧
      answer.failure = none := by
  intro answer
  have started : Session.start Recording.blank setup = ⟨.ok ⟨.blank, setup⟩, #[]⟩ :=
    Session.start_of_drawable drawable
  obtain ⟨completed, recorded⟩ := Session.render_recording ⟨.blank, setup⟩ commands
  rcases drawing : Session.render ⟨Recording.blank, setup⟩ commands with ⟨result, next, reported⟩
  rw [drawing] at completed recorded
  have outcome : result = .ok (setup.motion.outcome setup.alphabet commands) := completed
  have recording : next.surface = ⟨(setup.motion.segments setup.alphabet commands).toArray,
    some setup.style, true⟩ := recorded
  subst outcome
  simp only [answer, printReport, started, drawing, recording, true_and, and_true]
  rfl

namespace Request

variable {request : Request} {disk : String → Except FileFault ByteArray}

theorem undrawable?_override (setup : Setup) :
    (request.override setup).undrawable? = setup.undrawable? := rfl

theorem undrawable?_of_baseSetup {readFile : String → Except FileFault String} {setup : Setup}
    (loaded : request.baseSetup readFile = .ok setup) : setup.undrawable? = none := by
  unfold baseSetup at loaded
  split at loaded
  next path named =>
    split at loaded
    · cases loaded
    · exact (Setup.ofText_eq_ok_iff.mp loaded).2
  next =>
    split at loaded
    all_goals
      cases loaded
      decide

theorem undrawable?_of_setup {readFile : String → Except FileFault String} {setup : Setup}
    (resolved : request.setup readFile = .ok setup) : setup.undrawable? = none := by
  obtain ⟨base, loaded, rfl⟩ := Json.map_eq_ok.mp resolved
  exact (undrawable?_override base).trans (undrawable?_of_baseSetup loaded)

theorem baseSetup_of_text {path text : String} (named : request.setupPath = some path)
    (held : disk path = .ok text.toUTF8) :
    request.baseSetup (readText disk) = Setup.ofText text := by
  have read : readText disk path = .ok text := by
    rw [readText, held]
    exact textOfBytes_toUTF8 text
  simp only [baseSetup, named, read]

theorem baseSetup_of_fault {path line : String} (named : request.setupPath = some path)
    (fault : SetupFault disk path line) :
    ∃ failure, request.baseSetup (readText disk) = .error failure ∧ failure.message = line := by
  cases fault with
  | @unreadable fault held =>
      refine ⟨.file fault, ?_, rfl⟩
      simp only [baseSetup, named, readText, held]
      rfl
  | @notText bytes held different =>
      obtain ⟨text, same⟩ | ⟨-, refused⟩ := textOfBytes_cases bytes
      · exact absurd same (different text)
      · have read : readText disk path = .error .notText := by
          rw [readText, held]
          exact refused
        refine ⟨.file .notText, ?_, rfl⟩
        simp only [baseSetup, named, read]
  | @malformed text fault position held malformed located =>
      refine ⟨.setupText ⟨fault, position⟩, ?_, message_setupText fault position⟩
      rw [baseSetup_of_text named held]
      simp only [Setup.ofText, malformed, located]
  | @undrawable text setup cause held read undrawable =>
      refine ⟨.undrawable cause, ?_, rfl⟩
      rw [baseSetup_of_text named held, Setup.ofText, read]
      simp only [undrawable]

theorem setupFault_or_text (disk : String → Except FileFault ByteArray) (path : String) :
    (∃ line, SetupFault disk path line) ∨
      ∃ text setup, disk path = .ok text.toUTF8 ∧ Setup.ofText text = .ok setup := by
  cases held : disk path with
  | error fault => exact .inl ⟨_, .unreadable held⟩
  | ok bytes =>
      obtain ⟨text, rfl⟩ | ⟨different, -⟩ := textOfBytes_cases bytes
      · cases read : Setup.record.form.readText text with
        | error fault => exact .inl ⟨_, .malformed held read rfl⟩
        | ok setup =>
            cases checked : setup.undrawable? with
            | some cause => exact .inl ⟨_, .undrawable held read checked⟩
            | none => exact .inr ⟨text, setup, rfl, Setup.ofText_eq_ok_iff.mpr ⟨read, checked⟩⟩
      · exact .inl ⟨_, .notText held different⟩

theorem setup_cases (request : Request) (disk : String → Except FileFault ByteArray) :
    (∃ path line, request.setupPath = some path ∧ SetupFault disk path line) ∨
    ∃ setup, request.setup (readText disk) = .ok setup := by
  cases named : request.setupPath with
  | none =>
      right
      refine ⟨request.override (if request.commands.isNone then .demo else .standard), ?_⟩
      simp only [setup, baseSetup, named]
      rfl
  | some path =>
      obtain ⟨line, fault⟩ | ⟨text, base, held, loaded⟩ := setupFault_or_text disk path
      · exact .inl ⟨path, line, rfl, fault⟩
      · right
        refine ⟨request.override base, ?_⟩
        rw [setup, baseSetup_of_text named held, loaded]
        rfl

theorem answer_of_fault {path line : String} (named : request.setupPath = some path)
    (fault : SetupFault disk path line) :
    ∃ failure, request.answer (readText disk) = .failed failure [] ∧ failure.message = line := by
  obtain ⟨failure, refused, message⟩ := baseSetup_of_fault named fault
  refine ⟨failure, ?_, message⟩
  rw [answer, setup, refused]
  rfl

theorem answer_of_image {readFile : String → Except FileFault String} {resolved : Setup}
    {path : String} (loaded : request.setup readFile = .ok resolved)
    (json : request.json = false) (image : request.imagePath = some path) :
    request.answer readFile = .failed (imageFailure path) [] := by
  simp [answer, loaded, json, image]

theorem answer_of_printed {readFile : String → Except FileFault String} {resolved : Setup}
    (loaded : request.setup readFile = .ok resolved) (noImage : request.imagePath = none) :
    let answer := request.answer readFile
    answer.exit = 0 ∧ answer.failure = none ∧
      answer.output = (Report.ofSetup resolved request.drawnCommands).text := by
  intro answer
  have printed : ∃ events, answer = printReport request.drawnCommands resolved events := by
    cases json : request.json with
    | true => exact ⟨[], by simp [answer, Request.answer, loaded, json]⟩
    | false => exact ⟨[.noWindow], by simp [answer, Request.answer, loaded, json, noImage]⟩
  obtain ⟨events, printed⟩ := printed
  obtain ⟨exit, output, failure⟩ :=
    printReport_of_drawable (undrawable?_of_setup loaded) request.drawnCommands events
  rw [printed]
  exact ⟨exit, failure, output⟩

end Request

theorem imageFailure_message (path : String) :
    "error: " ++ (imageFailure path).message = "error: drawing surface failure: cannot write " ++
      path ++ ": built without the `cairo-backend` feature" := by
  have opening : "error: " ++ "drawing surface failure: " ++ "cannot write " =
      "error: drawing surface failure: cannot write " := by decide
  have message : (imageFailure path).message = "drawing surface failure: " ++
      ("cannot write " ++ path ++ ": built without the `cairo-backend` feature") := rfl
  rw [message, ← opening]
  simp only [String.append_assoc]

theorem Answer.diagnostics_failed (failure : Failure) :
    (Answer.failed failure []).diagnostics defaultThreshold = ["error: " ++ failure.message] := rfl

theorem Answer.diagnostics_of_none {answer : Answer} (completed : answer.failure = none) :
    answer.diagnostics defaultThreshold = [] := by
  simp [diagnostics, completed, defaultThreshold, logLines]

namespace Intent

section Endings

variable {arguments : List String} {request : Request} {entries : List Entry}
variable {readFile : String → Except FileFault String} {setup : Setup}

theorem answer_of_accepted (accepted : ofArguments arguments = .draw request)
    (readFile : String → Except FileFault String) :
    (ofArguments arguments).answer readFile = request.answer readFile := by
  rw [accepted, answer]

theorem answer_of_fault {disk : String → Except FileFault ByteArray} {path line : String}
    (accepted : ofArguments arguments = .draw request) (gives : Gives true arguments entries)
    (given : .path .setup path ∈ entries) (fault : SetupFault disk path line) :
    ∃ failure, (ofArguments arguments).answer (readText disk) = .failed failure [] ∧
      failure.message = line := by
  have named : request.setupPath = some path :=
    (holds_iff_mem accepted gives (.path .setup path)).mpr given
  rw [answer_of_accepted accepted]
  exact Request.answer_of_fault named fault

theorem setup_of_flawless {disk : String → Except FileFault ByteArray}
    (accepted : ofArguments arguments = .draw request) (gives : Gives true arguments entries)
    (flawless : ¬ ∃ line path, .path .setup path ∈ entries ∧ SetupFault disk path line) :
    ∃ setup, request.setup (readText disk) = .ok setup := by
  obtain ⟨path, line, named, fault⟩ | loaded := request.setup_cases disk
  · have given := (holds_iff_mem accepted gives (.path .setup path)).mp named
    exact absurd ⟨line, path, given, fault⟩ flawless
  · exact loaded

theorem answer_of_image {path : String} (accepted : ofArguments arguments = .draw request)
    (gives : Gives true arguments entries) (loaded : request.setup readFile = .ok setup)
    (wanted : .path .image path ∈ entries) :
    (ofArguments arguments).answer readFile = .failed (imageFailure path) [] := by
  have image : request.imagePath = some path :=
    (holds_iff_mem accepted gives (.path .image path)).mpr wanted
  rw [answer_of_accepted accepted]
  exact Request.answer_of_image loaded (json_eq_false_of_image accepted image) image

theorem answer_of_printed (accepted : ofArguments arguments = .draw request)
    (gives : Gives true arguments entries) (loaded : request.setup readFile = .ok setup)
    (unwanted : ∀ path, .path .image path ∉ entries) :
    let answer := (ofArguments arguments).answer readFile
    answer.exit = 0 ∧ answer.failure = none ∧
      answer.output = (Report.ofSetup setup request.drawnCommands).text := by
  have noImage : request.imagePath = none :=
    eq_none_of_absent (fun path => holds_iff_mem accepted gives (.path .image path)) unwanted
  rw [answer_of_accepted accepted]
  exact Request.answer_of_printed loaded noImage

end Endings

/-- Arguments that ask for a drawing get it printed unless the setup file has a fault or an image is
asked for. The fault comes first. Whatever numbers the options give, and whatever the commands are,
no other failure is possible. -/
theorem answer_of_drawing {arguments : List String} {request : Request}
    (accepted : ofArguments arguments = .draw request)
    (disk : String → Except FileFault ByteArray) :
    let readFile := readText disk
    let answer := (ofArguments arguments).answer readFile
    (∀ setup, request.setup readFile = .ok setup → setup.undrawable? = none ∧
      ∃ session outcome, (Session.start Recording.blank setup).result = .ok session ∧
        (session.render request.drawnCommands).result = .ok outcome) ∧
    (∃ entries, Gives true arguments entries) ∧
    ∀ entries, Gives true arguments entries →
      let Faulty (line : String) :=
        ∃ path, .path .setup path ∈ entries ∧ SetupFault disk path line
      (∀ line, Faulty line → answer.exit = 1 ∧ answer.output = "" ∧
        answer.diagnostics defaultThreshold = ["error: " ++ line]) ∧
      ((¬ ∃ line, Faulty line) → ∀ path, .path .image path ∈ entries →
        answer.exit = 1 ∧ answer.output = "" ∧
        answer.diagnostics defaultThreshold = ["error: drawing surface failure: cannot write " ++
          path ++ ": built without the `cairo-backend` feature"]) ∧
      ((¬ ∃ line, Faulty line) → (∀ path, .path .image path ∉ entries) →
        answer.exit = 0 ∧ answer.diagnostics defaultThreshold = [] ∧
        ∃ setup segments outcome, request.setup readFile = .ok setup ∧
          setup.Draws request.drawnCommands segments outcome ∧
          let document := printout request.drawnCommands segments outcome
          answer.output = document.indented ++ "\n" ∧ PrintedAs answer.output document.value) ∧
      (answer.exit = 1 ↔
        (∃ line, Faulty line) ∨ ∃ path, .path .image path ∈ entries) := by
  intro readFile answer
  refine ⟨?_, exists_gives accepted, ?_⟩
  · intro setup resolved
    have drawable := Request.undrawable?_of_setup resolved
    have completed := (Session.render_recording ⟨.blank, setup⟩ request.drawnCommands).1
    exact ⟨drawable, _, _, Session.start_eq_ok_iff.mpr ⟨rfl, drawable⟩, completed⟩
  · intro entries gives Faulty
    refine ⟨?_, ?_, ?_, ?_⟩
    · rintro line ⟨path, given, fault⟩
      obtain ⟨failure, failed, message⟩ := answer_of_fault accepted gives given fault
      simp only [answer, readFile]
      rw [failed, Answer.diagnostics_failed, message]
      exact ⟨rfl, rfl, rfl⟩
    · intro flawless path wanted
      obtain ⟨setup, loaded⟩ := setup_of_flawless accepted gives flawless
      simp only [answer, readFile]
      rw [answer_of_image accepted gives loaded wanted, Answer.diagnostics_failed,
        imageFailure_message]
      exact ⟨rfl, rfl, rfl⟩
    · intro flawless unwanted
      obtain ⟨setup, loaded⟩ := setup_of_flawless accepted gives flawless
      obtain ⟨exit, completed, output⟩ := answer_of_printed accepted gives loaded unwanted
      rw [Report.text_ofSetup] at output
      refine ⟨exit, Answer.diagnostics_of_none completed, setup, _, _, loaded,
        setup.draws request.drawnCommands, output, ?_⟩
      simp only [answer, readFile]
      rw [output]
      exact printedAs_indented _
    · by_cases fault : ∃ line, Faulty line
      · obtain ⟨line, path, given, faulty⟩ := fault
        obtain ⟨failure, failed, -⟩ := answer_of_fault accepted gives given faulty
        have exit : answer.exit = 1 := congrArg Answer.exit failed
        exact iff_of_true exit (.inl ⟨line, path, given, faulty⟩)
      · obtain ⟨setup, loaded⟩ := setup_of_flawless accepted gives fault
        by_cases image : ∃ path, .path .image path ∈ entries
        · obtain ⟨path, wanted⟩ := image
          have failed := answer_of_image accepted gives loaded wanted
          exact iff_of_true (congrArg Answer.exit failed) (.inr ⟨path, wanted⟩)
        · have unwanted := not_exists.mp image
          have exit : answer.exit = 0 := (answer_of_printed accepted gives loaded unwanted).1
          simp [exit, fault, image]

/-- The setup file is no text, which is reported before the image is refused. Without either, not
even a step that is not a number keeps the drawing from being printed. -/
theorem answer_of_drawing_not_text :
    let disk (path : String) : Except FileFault ByteArray :=
      if path = "turtle.json" then .ok ⟨#[0x7b, 0xff]⟩ else .error .missing
    let refused := ["--step", "nan", "--config=turtle.json", "-F", "--png", "x.png"]
    let printed := ["--heading=-inf", "--step", "nan", "]F[x", "--bracketed"]
    let request := { Request.blank with
      commands := some "-F", step := some (0.0 / 0.0), setupPath := some "turtle.json",
      imagePath := some "x.png" }
    let other := { Request.blank with
      commands := some "]F[x", step := some (0.0 / 0.0), heading := some (-(1.0 / 0.0)),
      bracketed := true }
    let failing := (ofArguments refused).answer (readText disk)
    let answer := (ofArguments printed).answer (readText disk)
    ofArguments refused = .draw request ∧ ofArguments printed = .draw other ∧
      failing.exit = 1 ∧ failing.output = "" ∧ failing.diagnostics defaultThreshold =
        ["error: io error: stream did not contain valid UTF-8"] ∧
      answer.exit = 0 ∧ answer.diagnostics defaultThreshold = [] ∧
      ∃ setup segments outcome, other.setup (readText disk) = .ok setup ∧
        setup.Draws "]F[x" segments outcome ∧
        answer.output = (printout "]F[x" segments outcome).indented ++ "\n" ∧
        PrintedAs answer.output (printout "]F[x" segments outcome).value := by
  intro disk refused printed request other failing answer
  have refusal : ofArguments refused = .draw request := by decide
  have acceptance : ofArguments printed = .draw other := by decide
  obtain ⟨-, ⟨entries, gives⟩, endings⟩ := answer_of_drawing refusal disk
  obtain ⟨faulty, -⟩ := endings entries gives
  have named : .path .setup "turtle.json" ∈ entries :=
    (holds_iff_mem refusal gives (.path .setup "turtle.json")).mp rfl
  have noText : ∀ text : String, text.toUTF8 ≠ ⟨#[0x7b, 0xff]⟩ := by
    intro text same
    have valid := text.isValidUTF8
    rw [← String.toUTF8_eq_toByteArray, same] at valid
    exact absurd valid (by decide)
  obtain ⟨exit, output, diagnostics⟩ :=
    faulty _ ⟨"turtle.json", named, .notText rfl noText⟩
  obtain ⟨-, ⟨others, givesOthers⟩, otherEndings⟩ := answer_of_drawing acceptance disk
  obtain ⟨-, -, reported, -⟩ := otherEndings others givesOthers
  have held := holds_iff_mem acceptance givesOthers
  have flawless : ¬ ∃ line path, .path .setup path ∈ others ∧ SetupFault disk path line := by
    rintro ⟨_, path, member, -⟩
    cases (held (.path .setup path)).mpr member
  have unwanted : ∀ path, .path .image path ∉ others := by
    intro path member
    cases (held (.path .image path)).mpr member
  obtain ⟨ended, quiet, written⟩ := reported flawless unwanted
  exact ⟨refusal, acceptance, exit, output, diagnostics, ended, quiet, written⟩

end Intent

end CommandLine

end TurtleGraphics
