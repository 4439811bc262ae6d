import TurtleGraphics.CommandLine.Arguments
import TurtleGraphics.CommandLine.Report

set_option autoImplicit false

/-!
# The program

The program draws one command text and prints the report of it. It can neither write images nor
open windows: asking for an image fails, and in place of a window the report is printed.
-/

namespace TurtleGraphics.CommandLine

/-- What the program leaves behind: its exit code, what it prints, the failure that it ends with,
and the events on the way. -/
structure Answer where
  exit : Nat
  output : String
  failure : Option Failure
  events : List Event

def programName : String := "turtle-rs"

def versionText : String := programName ++ " 0.1.0\n"

def helpText : String :=
  "Usage: " ++ programName ++ " [OPTIONS] [COMMANDS]\n" ++
  "\n" ++
  "Options:\n" ++
  "      --step <STEP>        Step length of F and f\n" ++
  "      --delta <DELTA>      Turn angle of + and - in degrees\n" ++
  "      --heading <HEADING>  Initial heading in degrees (90 faces up)\n" ++
  "      --start-x <START_X>  Start x coordinate\n" ++
  "      --start-y <START_Y>  Start y coordinate\n" ++
  "      --bracketed          Recognize [ and ] as save and restore of the cursor\n" ++
  "      --config <FILE>      JSON config file; explicit flags take precedence\n" ++
  "      --png <FILE>         Write a PNG file instead of opening a window\n" ++
  "      --json               Print the drawn segments as JSON\n" ++
  "  -h, --help               Print help\n" ++
  "  -V, --version            Print version\n"

/-- From which level upwards the program logs events, unless it is told otherwise. It logs none. -/
def defaultThreshold : Option Level := none

def Answer.failed (failure : Failure) (events : List Event) : Answer :=
  ⟨1, "", some failure, events⟩

/-- The lines that an answer has on the error channel: the log, then the failure. -/
def Answer.diagnostics (answer : Answer) (threshold : Option Level) : List String :=
  logLines threshold answer.events ++
    (answer.failure.map fun failure => "error: " ++ failure.message).toList

namespace Request

/-- What a request is completed from: the setup file if there is one, else the demonstration if
there is no command text, else the standard setup. -/
def baseSetup (request : Request) (readFile : String → Except FileFault String) :
    Except Failure Setup :=
  match request.setupPath with
  | some path =>
    match readFile path with
    | .error fault => .error (.file fault)
    | .ok text => Setup.ofText text
  | none => .ok (if request.commands.isNone then .demo else .standard)

def override (request : Request) (setup : Setup) : Setup :=
  let motion := setup.motion
  { setup with
    motion :=
      { step := request.step.getD motion.step
        delta := request.delta.getD motion.delta
        start := ⟨request.startX.getD motion.start.x, request.startY.getD motion.start.y⟩
        heading := request.heading.getD motion.heading }
    alphabet := if request.bracketed then .bracketed else setup.alphabet }

def setup (request : Request) (readFile : String → Except FileFault String) :
    Except Failure Setup :=
  (request.baseSetup readFile).map request.override

def drawnCommands (request : Request) : String :=
  request.commands.getD Setup.demoCommands

end Request

def printReport (commands : String) (setup : Setup) (events : List Event) : Answer :=
  match Session.start Recording.blank setup with
  | ⟨.error failure, opening⟩ => .failed failure (events ++ opening.toList)
  | ⟨.ok session, opening⟩ =>
    match session.render commands with
    | ⟨.error failure, _, rendering⟩ =>
      .failed failure (events ++ opening.toList ++ rendering.toList)
    | ⟨.ok outcome, session, rendering⟩ =>
      let done : Event :=
        .rendered outcome.tally.segments outcome.tally.ignored outcome.cursor.position.x
          outcome.cursor.position.y outcome.cursor.heading
      ⟨0, (Report.ofDrawing commands session.surface outcome).text, none,
        events ++ opening.toList ++ rendering.toList ++ [done]⟩

def imageFailure (path : String) : Failure :=
  .surface ("cannot write " ++ path ++ ": built without the `cairo-backend` feature")

def Request.answer (request : Request) (readFile : String → Except FileFault String) : Answer :=
  match request.setup readFile with
  | .error failure => .failed failure []
  | .ok setup =>
    if request.json then printReport request.drawnCommands setup []
    else
      match request.imagePath with
      | some path => .failed (imageFailure path) []
      | none => printReport request.drawnCommands setup [.noWindow]

/-- Carries out what the arguments come to. Rejected arguments leave nothing but an exit code. -/
def Intent.answer (intent : Intent) (readFile : String → Except FileFault String) : Answer :=
  match intent with
  | .draw request => request.answer readFile
  | .inform .version => ⟨0, versionText, none, []⟩
  | .inform .help => ⟨0, helpText, none, []⟩
  | .reject => ⟨2, "", none, []⟩

end TurtleGraphics.CommandLine
