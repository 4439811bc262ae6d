import TurtleGraphics.Drawing.Failure
import TurtleGraphics.Drawing.Setup
import TurtleGraphics.Json.Form

set_option autoImplicit false

/-!
# Written setups

The JSON forms of setups and of all that they consist of. A text that leaves out parts of a motion,
a style or a setup is completed from the standard one. Points, segments, viewports and colours must
be given in full, so the bases of their records never show.
-/

namespace TurtleGraphics

open Json (Choice Field Form Record)

def Point.record : Record Point where
  name := "Point"
  base := .origin
  fields := [
    .of "x" true .number Point.x fun x point => { point with x },
    .of "y" true .number Point.y fun y point => { point with y }]

def Segment.record : Record Segment where
  name := "Segment"
  base := ⟨.origin, .origin⟩
  fields := [
    .of "from" true Point.record.form Segment.start fun start segment => { segment with start },
    .of "to" true Point.record.form Segment.finish fun finish segment => { segment with finish }]

def Viewport.record : Record Viewport where
  name := "Viewport"
  base := .standard
  fields := [
    .of "width" true .word Viewport.width fun width viewport => { viewport with width },
    .of "height" true .word Viewport.height fun height viewport => { viewport with height }]

def Color.record : Record Color where
  name := "Color"
  base := .black
  fields := [
    .of "red" true .number Color.red fun red color => { color with red },
    .of "green" true .number Color.green fun green color => { color with green },
    .of "blue" true .number Color.blue fun blue color => { color with blue },
    .of "alpha" true .number Color.alpha fun alpha color => { color with alpha }]

/-- Styles as texts know them. Every part may be left out. -/
def Style.record : Record Style where
  name := "StrokeStyle"
  base := .standard
  fields := [
    .of "color" false Color.record.form Style.color fun color style => { style with color },
    .of "width" false .number Style.width fun width style => { style with width },
    .of "background" false Color.record.form Style.background fun background style =>
      { style with background }]

/-- Motions as texts know them. Every part may be left out. -/
def Motion.record : Record Motion where
  name := "RenderParams"
  base := .standard
  fields := [
    .of "step" false .number Motion.step fun step motion => { motion with step },
    .of "delta" false .number Motion.delta fun delta motion => { motion with delta },
    .of "start" false Point.record.form Motion.start fun start motion => { motion with start },
    .of "heading" false .number Motion.heading fun heading motion => { motion with heading }]

def Alphabet.name : Alphabet → String
  | .basic => "basic"
  | .bracketed => "bracketed"

def Alphabet.choice : Choice Alphabet where
  names := [.basic, .bracketed].map fun alphabet => (alphabet.name, alphabet)
  name := Alphabet.name

/-- Setups as texts know them. Every part may be left out. -/
def Setup.record : Record Setup where
  name := "TurtleConfig"
  base := .standard
  fields := [
    .of "params" false Motion.record.form Setup.motion fun motion setup => { setup with motion },
    .of "viewport" false Viewport.record.form Setup.viewport fun viewport setup =>
      { setup with viewport },
    .of "scale" false .number Setup.scale fun scale setup => { setup with scale },
    .of "style" false Style.record.form Setup.style fun style setup => { setup with style },
    .of "symbol_set" false Alphabet.choice.form Setup.alphabet fun alphabet setup =>
      { setup with alphabet }]

/-- Reads a setup and checks that something can be drawn with it. -/
def Setup.ofText (text : String) : Except Failure Setup :=
  match Setup.record.form.readText text with
  | .error fault => .error (.setupText ⟨fault, record.form.position text⟩)
  | .ok setup =>
    match setup.undrawable? with
    | some cause => .error (.undrawable cause)
    | none => .ok setup

/-- The indented text of a setup. Motions may hold non-finite numbers, whose text no setup can be
read from. -/
def Setup.toText (setup : Setup) : String :=
  (Setup.record.form.write setup).indented

end TurtleGraphics
