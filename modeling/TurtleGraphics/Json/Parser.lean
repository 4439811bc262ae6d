import TurtleGraphics.Json.Value

set_option autoImplicit false

/-!
# Parsing JSON

The parser is a machine that takes one character at a time. Its stack holds the lists and objects
that await a value, so nesting costs no recursion, and a run is a fold over the text.

A finished value is delivered to the frame on top of the stack. Where the text breaks off, the value
so far is handed down through the frames, each of which takes the flaw as its ending.
-/

namespace TurtleGraphics.Json

/-- A list or an object that awaits a value. What it has already is kept latest first. -/
inductive Frame where
  | list (items : List Value)
  | member (members : List (List Piece × Value)) (key : List Piece)

inductive Mode where
  | value
  /-- An item is wanted. The list may be closed instead if it has none yet. -/
  | item (first : Bool) (items : List Value)
  | afterItem (items : List Value)
  /-- A key is wanted. The object may be closed instead if it has none yet. -/
  | key (first : Bool) (members : List (List Piece × Value))
  | keyText (members : List (List Piece × Value)) (scan : QuotationScan)
  | colon (members : List (List Piece × Value)) (key : List Piece)
  | afterMember (members : List (List Piece × Value))
  /-- Inside a word that stands for `value`; `missing` are its characters to come. -/
  | word (missing : List Char) (value : Value)
  | numeral (scan : NumeralScan)
  | text (scan : QuotationScan)

inductive Move where
  | shift (mode : Mode) (stack : List Frame)
  | complete (value : Value)
  | completeBefore (value : Value)
  | stop (value : Value)

/-- The blanks of JSON: space, tab, line feed and carriage return. -/
def isBlank (c : Char) : Bool :=
  c == ' ' || c == '\t' || c == '\n' || c == '\r'

/-- The mode and stack after a whole value, unless it was the outermost one. -/
def deliver? (value : Value) : List Frame → Option (Mode × List Frame)
  | [] => none
  | .list items :: stack => some (.afterItem (value :: items), stack)
  | .member members key :: stack => some (.afterMember ((key, value) :: members), stack)

/-- A value that breaks off, inside the frames that awaited it. -/
def breakOff (flaw : Flaw) : List Frame → Value → Value
  | [], value => value
  | .list items :: stack, value =>
    breakOff flaw stack (.list (value :: items).reverse (some flaw))
  | .member members key :: stack, value =>
    breakOff flaw stack (.object ((key, value) :: members).reverse (some flaw))

def breakValue (stack : List Frame) (flaw : Flaw) : Value :=
  breakOff flaw stack (.broken flaw)

def breakList (stack : List Frame) (items : List Value) (flaw : Flaw) : Value :=
  breakOff flaw stack (.list items.reverse (some flaw))

def breakObject (stack : List Frame) (members : List (List Piece × Value)) (flaw : Flaw) :
    Value :=
  breakOff flaw stack (.object members.reverse (some flaw))

def breakMember (stack : List Frame) (members : List (List Piece × Value)) (key : List Piece)
    (flaw : Flaw) : Value :=
  breakValue (.member members key :: stack) flaw

def finish (value : Value) (stack : List Frame) : Move :=
  match deliver? value stack with
  | some (mode, outer) => .shift mode outer
  | none => .complete value

def startValue (stack : List Frame) (c : Char) : Move :=
  match c with
  | 'n' => .shift (.word "ull".toList .null) stack
  | 't' => .shift (.word "rue".toList (.boolean true)) stack
  | 'f' => .shift (.word "alse".toList (.boolean false)) stack
  | '"' => .shift (.text .start) stack
  | '[' => .shift (.item true []) stack
  | '\x7b' => .shift (.key true []) stack
  | _ =>
    match NumeralScan.start? c with
    | some scan => .shift (.numeral scan) stack
    | none => .stop (breakValue stack .noValue)

def stepAfterItem (items : List Value) (stack : List Frame) (c : Char) : Move :=
  match c with
  | ',' => .shift (.item false items) stack
  | ']' => finish (.list items.reverse none) stack
  | _ => .stop (breakList stack items .noListSeparator)

def stepAfterMember (members : List (List Piece × Value)) (stack : List Frame) (c : Char) :
    Move :=
  match c with
  | ',' => .shift (.key false members) stack
  | '\x7d' => finish (.object members.reverse none) stack
  | _ => .stop (breakObject stack members .noObjectSeparator)

/-- The first character after a value that shows its end only by what follows. -/
def stepAfterValue (value : Value) (stack : List Frame) (c : Char) : Move :=
  match stack with
  | [] => .completeBefore value
  | .list items :: outer =>
    if isBlank c then .shift (.afterItem (value :: items)) outer
    else stepAfterItem (value :: items) outer c
  | .member members key :: outer =>
    if isBlank c then .shift (.afterMember ((key, value) :: members)) outer
    else stepAfterMember ((key, value) :: members) outer c

def stepItem (first : Bool) (items : List Value) (stack : List Frame) (c : Char) : Move :=
  if c = ']' then
    if first then finish (.list items.reverse none) stack
    else .stop (breakList stack items .listCommaThenClose)
  else startValue (.list items :: stack) c

def stepKey (first : Bool) (members : List (List Piece × Value)) (stack : List Frame) (c : Char) :
    Move :=
  if c = '"' then .shift (.keyText members .start) stack
  else if c = '\x7d' then
    if first then finish (.object members.reverse none) stack
    else .stop (breakObject stack members .objectCommaThenClose)
  else .stop (breakObject stack members .strayKey)

/-- One more character; `rest` is what follows it. -/
def step (mode : Mode) (stack : List Frame) (c : Char) (rest : List Char) : Move :=
  match mode with
  | .value => if isBlank c then .shift mode stack else startValue stack c
  | .item first items => if isBlank c then .shift mode stack else stepItem first items stack c
  | .afterItem items => if isBlank c then .shift mode stack else stepAfterItem items stack c
  | .key first members =>
    if isBlank c then .shift mode stack else stepKey first members stack c
  | .colon members key =>
    if isBlank c then .shift mode stack
    else if c = ':' then .shift .value (.member members key :: stack)
    else .stop (breakMember stack members key .noColon)
  | .afterMember members =>
    if isBlank c then .shift mode stack else stepAfterMember members stack c
  | .keyText members scan =>
    match scan.step c rest with
    | .more scan => .shift (.keyText members scan) stack
    | .complete key => .shift (.colon members key) stack
    | .broken pieces cause => .stop (breakObject stack members (.quotation pieces cause))
  | .word [] value => stepAfterValue value stack c
  | .word (wanted :: missing) value =>
    if c = wanted then .shift (.word missing value) stack
    else .stop (breakValue stack (.word false))
  | .numeral scan =>
    match scan.step c with
    | .more scan => .shift (.numeral scan) stack
    | .complete numeral => stepAfterValue (.number numeral) stack c
    | .broken => .stop (breakValue stack (.numeral false))
  | .text scan =>
    match scan.step c rest with
    | .more scan => .shift (.text scan) stack
    | .complete pieces => finish (.text pieces) stack
    | .broken pieces cause => .stop (breakValue stack (.quotation pieces cause))

/-- The flaw that the end of the text is to a list or an object that has just been given a
value. -/
def breakAfterValue (value : Value) : List Frame → Value
  | [] => value
  | .list items :: stack => breakList stack (value :: items) .endInList
  | .member members key :: stack => breakObject stack ((key, value) :: members) .endInObject

/-- What the end of the text means to the parser. -/
def atEnd (mode : Mode) (stack : List Frame) : Value :=
  match mode with
  | .value => breakValue stack .endBeforeValue
  | .item true items => breakList stack items .endInList
  | .item false items => breakValue (.list items :: stack) .endBeforeValue
  | .afterItem items => breakList stack items .endInList
  | .key true members => breakObject stack members .endInObject
  | .key false members => breakObject stack members .endAfterObjectComma
  | .keyText members scan =>
    breakObject stack members (.quotation scan.pieces.reverse .endOfText)
  | .colon members key => breakMember stack members key .endInObject
  | .afterMember members => breakObject stack members .endInObject
  | .word [] value => breakAfterValue value stack
  | .word (_ :: _) _ => breakValue stack (.word true)
  | .numeral scan =>
    match scan.finish? with
    | some numeral => breakAfterValue (.number numeral) stack
    | none => breakValue stack (.numeral true)
  | .text scan => breakValue stack (.quotation scan.pieces.reverse .endOfText)

/-- Runs the machine. The result is the value and, if it is whole, the text after it. -/
def run : Mode → List Frame → List Char → Value × List Char
  | mode, stack, [] => (atEnd mode stack, [])
  | mode, stack, c :: rest =>
    match step mode stack c rest with
    | .shift mode stack => run mode stack rest
    | .complete value => (value, rest)
    | .completeBefore value => (value, c :: rest)
    | .stop value => (value, [])

/-- The value at the start of a text, after any blanks, and the text after it. -/
def parse (text : List Char) : Value × List Char :=
  run .value [] text

end TurtleGraphics.Json
