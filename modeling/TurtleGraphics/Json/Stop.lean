import TurtleGraphics.Json.Parser

set_option autoImplicit false

/-!
# How far a text is read

A text is read from left to right, and who refuses it has read no further than to the fault. How far
that is depends on what was wanted: a list is refused at its bracket, a number at its end, a flawed
text where it stops making sense. The machine that parses a text tells these places apart.
-/

namespace TurtleGraphics.Json

/-- How far a text was read: up to what is left of it, and some bytes beyond. -/
structure Stop where
  rest : List Char
  ahead : Nat
deriving DecidableEq, Repr

/-- The place that many bytes further on, which may be inside a character. -/
def Position.after : Position → List Char → Nat → Position
  | position, [], _ => position
  | position, c :: text, bytes =>
    if bytes = 0 then position
    else if c = '\n' then after ⟨position.line + 1, 0⟩ text (bytes - 1)
    else after ⟨position.line, position.column + min bytes c.utf8Size⟩ text (bytes - c.utf8Size)

/-- The place in a text at which its reader stopped. Nothing lies beyond the end. -/
def Stop.position (stop : Stop) (text : List Char) : Position :=
  let bytes := (String.ofList text).utf8ByteSize - (String.ofList stop.rest).utf8ByteSize
  Position.after ⟨1, 0⟩ text (bytes + stop.ahead)

/-- Whether the latest of some pieces, which comes first, tears a surrogate pair. The others do
not. -/
def tearsPair : List Piece → Bool
  | .plain _ :: .unit first :: _ => opensPair first
  | .unit second :: .unit first :: _ => opensPair first != closesPair second
  | .unit unit :: _ => closesPair unit
  | _ => false

/-- Where a quoted text is left that cannot go on. The digits of a code unit are taken all at once,
or all that is left of the text if that is too short for them. -/
def QuotationScan.stop (scan : QuotationScan) (text : List Char) : Stop :=
  match scan.escape, text with
  | .unit missing _, text => ⟨text, missing⟩
  | .backslash, 'u' :: _ => ⟨[], 0⟩
  | _, text => ⟨text, 1⟩

/-- The greatest exponent that is taken as a number. -/
def greatestExponent : Nat := Nat.pow 2 31 - 1

namespace Mode

/-- Where the machine leaves a text that it cannot go on with. -/
def stop (mode : Mode) (text : List Char) : Stop :=
  match mode with
  | .keyText _ scan => scan.stop text
  | .text scan => scan.stop text
  | _ => ⟨text, 1⟩

/-- Whether what was just read is refused by one who wants to know what it denotes, though it is
well-formed so far. -/
def isRefused (mode : Mode) : Bool :=
  match mode with
  | .keyText _ scan => tearsPair scan.pieces
  | .colon _ pieces => !(decode pieces none).isOk
  | .text scan => tearsPair scan.pieces
  | .numeral scan =>
    0 < scan.numeral.significand && !scan.numeral.exponentNegative &&
      greatestExponent < scan.numeral.exponent
  | _ => false

/-- Whether an item of a list is wanted next, after so many others. The next two say the same of the
members of an object, where the key comes before the value. -/
def wantsItem (index : Nat) : Mode → List Frame → Bool
  | .item _ items, [] => items.length == index
  | _, _ => false

def hasKey (index : Nat) : Mode → List Frame → Bool
  | .colon members _, [] => members.length == index
  | _, _ => false

def wantsMember (index : Nat) : Mode → List Frame → Bool
  | .value, [.member members _] => members.length == index
  | _, _ => false

end Mode

/-- Runs the machine to the end of a value, or to where it can go on no more. Outside all frames,
what is read has to denote something. -/
def stop : Mode → List Frame → List Char → Stop
  | _, _, [] => ⟨[], 0⟩
  | mode, stack, c :: rest =>
    match step mode stack c rest with
    | .shift next outer =>
      if outer.isEmpty && next.isRefused then ⟨c :: rest, 1⟩ else stop next outer rest
    | .complete _ => ⟨rest, 0⟩
    | .completeBefore _ => ⟨c :: rest, 0⟩
    | .stop _ => mode.stop (c :: rest)

/-- Runs the machine until it comes to what is sought. The result is the text that is left then. -/
def seek (sought : Mode → List Frame → Bool) : Mode → List Frame → List Char → Option (List Char)
  | mode, stack, [] => if sought mode stack then some [] else none
  | mode, stack, c :: rest =>
    if sought mode stack then some (c :: rest)
    else
      match step mode stack c rest with
      | .shift next outer => seek sought next outer rest
      | _ => none

def skipBlanks (text : List Char) : List Char :=
  text.dropWhile isBlank

/-- Where one stops who wants another value than a text starts with: before the bracket of a list or
an object, else behind the value. -/
def Value.mismatchStop (value : Value) (text : List Char) : Stop :=
  match value with
  | .list _ _ => ⟨text, 0⟩
  | .object _ _ => ⟨text, 0⟩
  | _ => stop .value [] text

/-- Where one stops who reads the inside of an object for the choice or the fields that it gives. -/
def objectStop (inside : List Char) : Stop :=
  stop (.key true []) [] inside

def listStop (inside : List Char) : Stop :=
  stop (.item true []) [] inside

-- What is left of the inside of an object or a list where the machine comes to some member or item.

def memberText? (index : Nat) (inside : List Char) : Option (List Char) :=
  (seek (Mode.wantsMember index) (.key true []) [] inside).map skipBlanks

def behindKey? (index : Nat) (inside : List Char) : Option (List Char) :=
  seek (Mode.hasKey index) (.key true []) [] inside

def itemText? (index : Nat) (inside : List Char) : Option (List Char) :=
  (seek (Mode.wantsItem index) (.item true []) [] inside).map skipBlanks

end TurtleGraphics.Json
