import TurtleGraphics.CommandLine.Program

set_option autoImplicit false

/-!
# The executable

Reads the arguments and the file that they name, and leaves behind what `Intent.answer` says.
-/

namespace TurtleGraphics.CommandLine

def readTextFile (path : String) : IO (Except FileFault String) := do
  try
    return textOfBytes (← IO.FS.readBinFile path)
  catch failure =>
    match failure with
    | .noFileOrDirectory .. => return .error .missing
    | .inappropriateType .. => return .error .isDirectory
    | other => return .error (.other (toString other))

/-- The text of the setup file, if the arguments name one. -/
def readSetupFile (intent : Intent) : IO (Except FileFault String) :=
  match intent with
  | .draw { setupPath := some path, .. } => readTextFile path
  | _ => return .error .missing

/-- Carries out what the arguments come to and returns the exit code. -/
def run (arguments : List String) : IO UInt32 := do
  let intent := Intent.ofArguments arguments
  let file ← readSetupFile intent
  let answer := intent.answer fun _ => file
  IO.print answer.output
  for line in answer.diagnostics defaultThreshold do
    IO.eprintln line
  return answer.exit.toUInt32

end TurtleGraphics.CommandLine

def main (arguments : List String) : IO UInt32 :=
  TurtleGraphics.CommandLine.run arguments
