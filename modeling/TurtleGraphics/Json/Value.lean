import TurtleGraphics.Json.Numeral
import TurtleGraphics.Json.Quotation

set_option autoImplicit false

/-!
# JSON values, whole or broken off

A value is read as far as its text makes sense. Where the text stops making sense the value is
broken off, and so is every list and object around it: each carries the flaw as its ending. What
fault the flaw is depends on who reads the value. One who knows what the value should be reports
`Flaw.fault`; one who only passes over it reports `Flaw.passingFault`.
-/

namespace TurtleGraphics.Json

inductive Flaw where
  | endBeforeValue
  | noValue
  /-- A misspelt word, or one that the end of the text cuts short. -/
  | word (atEnd : Bool)
  /-- A malformed numeral, or one that the end of the text cuts short. -/
  | numeral (atEnd : Bool)
  /-- A quoted text, as a value or as a key, that does not come to its closing quote. -/
  | quotation (pieces : List Piece) (cause : QuotationFlaw)
  | endInList
  | noListSeparator
  | listCommaThenClose
  | endInObject
  | noObjectSeparator
  | objectCommaThenClose
  | endAfterObjectComma
  | strayKey
  | noColon

/-- The fault of a quoted text that breaks off: the first one in reading order. -/
def quotationFault (pieces : List Piece) (cause : QuotationFlaw) : Fault :=
  match decode pieces (some cause) with
  | .error fault => fault
  | .ok _ => cause.fault

def Flaw.fault : Flaw → Fault
  | .endBeforeValue => .endInValue
  | .noValue => .expectedValue
  | .word atEnd => if atEnd then .endInValue else .expectedWord
  | .numeral atEnd => if atEnd then .endInValue else .invalidNumber
  | .quotation pieces cause => quotationFault pieces cause
  | .endInList => .endInList
  | .noListSeparator => .expectedListSeparator
  | .listCommaThenClose => .trailingComma
  | .endInObject => .endInObject
  | .noObjectSeparator => .expectedObjectSeparator
  | .objectCommaThenClose => .trailingComma
  | .endAfterObjectComma => .endInValue
  | .strayKey => .expectedKey
  | .noColon => .expectedColon

/-- The fault that a flaw is to one who passes over the value. Surrogates, commas before a closing
bracket and numerals that end early are seen with less care. -/
def Flaw.passingFault : Flaw → Fault
  | .numeral _ => .invalidNumber
  | .quotation _ cause => cause.fault
  | .listCommaThenClose => .expectedValue
  | .objectCommaThenClose => .expectedKey
  | .endAfterObjectComma => .endInObject
  | flaw => flaw.fault

/-- A value in the order of its text. Members keep their order and may repeat keys. -/
inductive Value where
  | null
  | boolean (value : Bool)
  | number (numeral : Numeral)
  | text (pieces : List Piece)
  /-- The ending is `none` for a list that was closed. -/
  | list (items : List Value) (ending : Option Flaw)
  /-- The ending is `none` for an object that was closed. -/
  | object (members : List (List Piece × Value)) (ending : Option Flaw)
  | broken (flaw : Flaw)

namespace Value

instance : Inhabited Value := ⟨.null⟩

/-- The flaw in a value, if it is not whole. Endings repeat an inner flaw, so no search is
needed. -/
def flaw? : Value → Option Flaw
  | .list _ ending => ending
  | .object _ ending => ending
  | .broken flaw => some flaw
  | .null | .boolean _ | .number _ | .text _ => none

/-- The fault of a value where another kind of value is wanted. Scalars are read to their end
first, and a fault inside them counts before their kind. -/
def mismatch (value : Value) (wanted : String) : Fault :=
  match value with
  | .null => .wrongType .null wanted
  | .boolean flag => .wrongType (.boolean flag) wanted
  | .number numeral =>
    match numeral.quantity with
    | .ok (.integer whole) => .wrongType (.integer whole) wanted
    | .ok (.float double) => .wrongType (.float double) wanted
    | .error fault => fault
  | .text pieces =>
    match decode pieces none with
    | .ok characters => .wrongType (.text (String.ofList characters)) wanted
    | .error fault => fault
  | .list _ _ => .wrongType .list wanted
  | .object _ _ => .wrongType .object wanted
  | .broken flaw => flaw.fault

end Value

end TurtleGraphics.Json
