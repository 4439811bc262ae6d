import TurtleGraphics.Drawing.Undrawable
import TurtleGraphics.Json.Fault

set_option autoImplicit false

/-!
# Failures

Everything that can keep a drawing from being made or shown, with its wording.
-/

namespace TurtleGraphics

/-- Why a file could not be read as a text. -/
inductive FileFault where
  | missing
  | isDirectory
  | notText
  /-- Any other reason, in the words of the system. -/
  | other (reason : String)
deriving DecidableEq

def FileFault.message : FileFault → String
  | .missing => "No such file or directory (os error 2)"
  | .isDirectory => "Is a directory (os error 21)"
  | .notText => "stream did not contain valid UTF-8"
  | .other reason => reason

/-- The text that a file holds with its bytes, which must be UTF-8. -/
def textOfBytes (bytes : ByteArray) : Except FileFault String :=
  match String.fromUTF8? bytes with
  | some text => .ok text
  | none => .error .notText

inductive Failure where
  | undrawable (cause : Undrawable)
  /-- A surface refused a call, in its own words. -/
  | surface (reason : String)
  | setupText (diagnosis : Json.Diagnosis)
  /-- Anything else that is wrong with what was given, in words of its own. -/
  | invalidData (reason : String)
  | file (fault : FileFault)

def Failure.message : Failure → String
  | .undrawable cause => cause.message
  | .surface reason => "drawing surface failure: " ++ reason
  | .setupText diagnosis => "invalid config: " ++ diagnosis.message
  | .invalidData reason => "invalid data: " ++ reason
  | .file fault => "io error: " ++ fault.message

end TurtleGraphics
