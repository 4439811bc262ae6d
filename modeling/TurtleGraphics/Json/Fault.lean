import TurtleGraphics.Json.Layout
import TurtleGraphics.Text.Quoted

set_option autoImplicit false

/-!
# What can be wrong with a JSON text

Faults are causes. Their wording is in `Fault.message` alone. A diagnosis adds how far the text had
been read by then.
-/

namespace TurtleGraphics.Json

/-- What stood where something else was wanted. Scalars are shown with their value, lists and
objects are not. -/
inductive Found where
  | null
  | boolean (value : Bool)
  | integer (value : Int)
  | float (value : Float)
  | text (value : String)
  | list
  | object

inductive Fault where
  /-- The text ends where a value is wanted or unfinished. -/
  | endInValue
  | endInText
  | endInList
  | endInObject
  | expectedColon
  | expectedListSeparator
  | expectedObjectSeparator
  | expectedValue
  /-- A misspelt `null`, `true` or `false`. -/
  | expectedWord
  /-- Something other than a quoted text where a key is wanted, also if the key is to name a
  choice. -/
  | expectedKey
  | trailingComma
  /-- Something other than blanks follows, or a list has an item too many. -/
  | trailingCharacters
  | invalidNumber
  | numberOutOfRange
  | invalidEscape
  /-- The second half of a surrogate pair without its first, or a wrong second half. -/
  | loneSurrogate
  /-- The first half of a surrogate pair without any second escape. -/
  | unfinishedSurrogatePair
  | controlCharacter
  | wrongType (found : Found) (wanted : String)
  | wrongInteger (value : Int) (wanted : String)
  /-- A list that ends before an item for a field without a default. -/
  | shortList (length : Nat) (record : String) (fields : Nat)
  | missingField (key : String)
  | duplicateField (key : String)
  | unknownVariant (name : String) (known : List String)

def named (name : String) : String :=
  "`" ++ name ++ "`"

def oneOf : List String → String
  | [] => "there are no variants"
  | [only] => "expected " ++ named only
  | [first, second] => "expected " ++ named first ++ " or " ++ named second
  | names => "expected one of " ++ ", ".intercalate (names.map named)

def Found.message : Found → String
  | .null => "null"
  | .boolean value => "boolean " ++ named (if value then "true" else "false")
  | .integer value => "integer " ++ named (toString value)
  | .float value => "floating point " ++ named (numberLayout.write value)
  | .text value => "string " ++ Text.quoted value
  | .list => "sequence"
  | .object => "map"

def Fault.message : Fault → String
  | .endInValue => "EOF while parsing a value"
  | .endInText => "EOF while parsing a string"
  | .endInList => "EOF while parsing a list"
  | .endInObject => "EOF while parsing an object"
  | .expectedColon => "expected `:`"
  | .expectedListSeparator => "expected `,` or `]`"
  | .expectedObjectSeparator => "expected `,` or `\x7d`"
  | .expectedValue => "expected value"
  | .expectedWord => "expected ident"
  | .expectedKey => "key must be a string"
  | .trailingComma => "trailing comma"
  | .trailingCharacters => "trailing characters"
  | .invalidNumber => "invalid number"
  | .numberOutOfRange => "number out of range"
  | .invalidEscape => "invalid escape"
  | .loneSurrogate => "lone leading surrogate in hex escape"
  | .unfinishedSurrogatePair => "unexpected end of hex escape"
  | .controlCharacter => "control character (\\u0000-\\u001F) found while parsing a string"
  | .wrongType found wanted => "invalid type: " ++ found.message ++ ", expected " ++ wanted
  | .wrongInteger value wanted =>
    "invalid value: integer " ++ named (toString value) ++ ", expected " ++ wanted
  | .shortList length record fields =>
    "invalid length " ++ toString length ++ ", expected struct " ++ record ++ " with " ++
      toString fields ++ " elements"
  | .missingField key => "missing field " ++ named key
  | .duplicateField key => "duplicate field " ++ named key
  | .unknownVariant name known => "unknown variant " ++ named name ++ ", " ++ oneOf known

/-- A place in a text: its line, counted from one, and the bytes of that line before it. -/
structure Position where
  line : Nat
  column : Nat
deriving DecidableEq, Repr

structure Diagnosis where
  fault : Fault
  position : Position

def Diagnosis.message (diagnosis : Diagnosis) : String :=
  diagnosis.fault.message ++ " at line " ++ toString diagnosis.position.line ++ " column " ++
    toString diagnosis.position.column

end TurtleGraphics.Json
