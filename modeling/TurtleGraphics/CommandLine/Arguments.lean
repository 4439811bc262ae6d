import TurtleGraphics.Number.Numeral

set_option autoImplicit false

/-!
# Command line arguments

An option takes its value from the next argument or, after `=`, from its own. One argument in all
may stand free: the command text. Since turning right is written with a hyphen, a free argument may
look like an option, as long as it is none. Arguments are judged from left to right, and the first
one that cannot stand, or that asks for information, decides.
-/

namespace TurtleGraphics.CommandLine

inductive NumberOption where
  | step
  | delta
  | heading
  | startX
  | startY
deriving DecidableEq, Repr

inductive PathOption where
  | setup
  | image
deriving DecidableEq, Repr

/-- An option without a value that bears on the drawing. -/
inductive Switch where
  | bracketed
  /-- Segments are to be printed even where a window could be opened. -/
  | json
deriving DecidableEq, Repr

inductive Information where
  | version
  | help
deriving DecidableEq, Repr

inductive Named where
  | number (option : NumberOption)
  | path (option : PathOption)
  | switch (switch : Switch)
  | information (information : Information)
deriving DecidableEq, Repr

/-- What a long name, written after two hyphens, stands for. -/
def Named.ofLong? : String → Option Named
  | "step" => some (.number .step)
  | "delta" => some (.number .delta)
  | "heading" => some (.number .heading)
  | "start-x" => some (.number .startX)
  | "start-y" => some (.number .startY)
  | "config" => some (.path .setup)
  | "png" => some (.path .image)
  | "bracketed" => some (.switch .bracketed)
  | "json" => some (.switch .json)
  | "version" => some (.information .version)
  | "help" => some (.information .help)
  | _ => none

/-- What a letter, written after one hyphen, stands for. -/
def Information.ofLetter? : Char → Option Information
  | 'V' => some .version
  | 'h' => some .help
  | _ => none

/-- What an argument looks like, before its place is considered. -/
inductive Shape where
  | separator
  /-- A known long name, with the value attached to it. -/
  | named (meaning : Named) (attached : Option String)
  /-- A long name that stands for nothing, as the empty name before an equals sign does. -/
  | unknownLong
  /-- Letters after one hyphen: what the first one asks for, and whether all are known. -/
  | letters (first : Option Information) (allKnown : Bool)
  /-- Anything else, a single hyphen and the empty argument included. -/
  | plain
deriving DecidableEq, Repr

/-- The text up to the first equals sign, and the text after it if there is one. -/
def splitAtEquals : List Char → List Char × Option (List Char)
  | [] => ([], none)
  | c :: rest =>
    if c = '=' then ([], some rest)
    else
      let (name, attached) := splitAtEquals rest
      (c :: name, attached)

def Shape.of (argument : String) : Shape :=
  match argument.toList with
  | ['-', '-'] => .separator
  | '-' :: '-' :: text =>
    let (name, attached) := splitAtEquals text
    match Named.ofLong? (String.ofList name) with
    | some meaning => .named meaning (attached.map String.ofList)
    | none => .unknownLong
  | '-' :: first :: others =>
    .letters (Information.ofLetter? first)
      ((first :: others).all fun letter => (Information.ofLetter? letter).isSome)
  | _ => .plain

/-- A drawing that is asked for. What is `none` was not given. -/
structure Request where
  commands : Option String
  step : Option Float
  delta : Option Float
  heading : Option Float
  startX : Option Float
  startY : Option Float
  setupPath : Option String
  imagePath : Option String
  bracketed : Bool
  json : Bool
deriving DecidableEq

def Request.blank : Request :=
  ⟨none, none, none, none, none, none, none, none, false, false⟩

inductive Intent where
  | draw (request : Request)
  | inform (information : Information)
  | reject
deriving DecidableEq

namespace Request

/-- Fills a part that may be given once only. -/
def once {α : Type} (given : Option α) (value : α) : Option (Option α) :=
  match given with
  | none => some (some value)
  | some _ => none

/-- Adds the value of a number option, which must be a number and the first of its option. -/
def addNumber (request : Request) (option : NumberOption) (text : String) : Option Request := do
  let value ← Number.ofText? text
  match option with
  | .step => return { request with step := ← once request.step value }
  | .delta => return { request with delta := ← once request.delta value }
  | .heading => return { request with heading := ← once request.heading value }
  | .startX => return { request with startX := ← once request.startX value }
  | .startY => return { request with startY := ← once request.startY value }

/-- Adds the value of a path option, which must not be empty and the first of its option. -/
def addPath (request : Request) (option : PathOption) (path : String) : Option Request :=
  if path.isEmpty then none
  else
    match option with
    | .setup => return { request with setupPath := ← once request.setupPath path }
    | .image => return { request with imagePath := ← once request.imagePath path }

/-- Turns a switch on, which must be off. -/
def addSwitch (request : Request) (switch : Switch) : Option Request :=
  match switch with
  | .bracketed => if request.bracketed then none else some { request with bracketed := true }
  | .json => if request.json then none else some { request with json := true }

/-- Adds the free argument, of which there is one at most. -/
def addCommands (request : Request) (text : String) : Option Request :=
  return { request with commands := ← once request.commands text }

/-- What a request comes to when no argument is left: printing segments and writing an image
exclude each other. -/
def finish (request : Request) : Intent :=
  if request.json && request.imagePath.isSome then .reject else .draw request

end Request

/-- Whether a path option takes an argument of this shape as its value. Options and the separator
are never values; what merely looks like an option is one only while it could stand free. -/
def Shape.isPathValue (free : Bool) : Shape → Bool
  | .plain => true
  | .unknownLong => free
  | .letters _ allKnown => free && !allKnown
  | .separator | .named _ _ => false

/-- Reads arguments after the separator, which all stand free. -/
def readFreeArguments (request : Request) : List String → Intent
  | [] => request.finish
  | text :: arguments =>
    match request.addCommands text with
    | some request => readFreeArguments request arguments
    | none => .reject

/-- Reads arguments. A number option takes the next argument as its value whatever it looks
like. -/
def readArguments (request : Request) : List String → Intent
  | [] => request.finish
  | argument :: arguments =>
    let continue? (next : Option Request) : Intent :=
      match next with
      | some request => readArguments request arguments
      | none => .reject
    match Shape.of argument with
    | .separator => readFreeArguments request arguments
    | .plain => continue? (request.addCommands argument)
    | .unknownLong =>
      if request.commands.isNone then continue? (request.addCommands argument) else .reject
    | .letters first allKnown =>
      if !allKnown && request.commands.isNone then continue? (request.addCommands argument)
      else
        match first with
        | some information => .inform information
        | none => .reject
    | .named (.switch switch) none => continue? (request.addSwitch switch)
    | .named (.information information) none => .inform information
    | .named (.switch _) (some _) => .reject
    | .named (.information _) (some _) => .reject
    | .named (.number option) (some value) => continue? (request.addNumber option value)
    | .named (.path option) (some path) => continue? (request.addPath option path)
    | .named (.number option) none =>
      match arguments with
      | [] => .reject
      | value :: arguments =>
        match request.addNumber option value with
        | some request => readArguments request arguments
        | none => .reject
    | .named (.path option) none =>
      match arguments with
      | [] => .reject
      | path :: arguments =>
        if (Shape.of path).isPathValue request.commands.isNone then
          match request.addPath option path with
          | some request => readArguments request arguments
          | none => .reject
        else .reject

/-- What arguments come to. They are texts here, so a path that is not UTF-8 cannot be among them,
though the options for paths would take it. -/
def Intent.ofArguments (arguments : List String) : Intent :=
  readArguments .blank arguments

end TurtleGraphics.CommandLine
