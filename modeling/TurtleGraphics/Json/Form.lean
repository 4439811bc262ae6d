import TurtleGraphics.Json.Document
import TurtleGraphics.Json.Stop

set_option autoImplicit false

/-!
# Written forms

A form is a way to write values of a type as JSON and to read them back. Records are described by
a table of fields. Reading a record starts from a base and replaces one field after another by what
the text gives for it, so a field that is left out keeps the base's value, if it may be left out.

What is refused is refused at some place of the text. To find it, a form is given the value and the
text that starts with it.
-/

namespace TurtleGraphics.Json

/-- How values of a type are read from JSON and written to it. -/
structure Form (α : Type) where
  read : Value → Except Fault α
  /-- Where the reader of a text stops that refuses the value at its start. -/
  stop : Value → List Char → Stop
  write : α → Document

/-- Doubles: any numeral that is not too large. -/
def Form.number : Form Float where
  read
    | .number numeral => numeral.quantity.map Quantity.toFloat
    | value => .error (value.mismatch "f64")
  stop := Value.mismatchStop
  write := .number

/-- Whole numbers of 32 bits, written as whole numerals. -/
def Form.word : Form UInt32 where
  read
    | .number numeral => do
      match ← numeral.quantity with
      | .integer number =>
        if 0 ≤ number ∧ number < UInt32.size then return number.toNat.toUInt32
        else throw (.wrongInteger number "u32")
      | .float number => throw (.wrongType (.float number) "u32")
    | value => .error (value.mismatch "u32")
  stop := Value.mismatchStop
  write number := .count number.toNat

structure Choice (α : Type) where
  names : List (String × α)
  name : α → String

namespace Choice

variable {α : Type}

/-- The value of a name, which must be spelt exactly. -/
def ofName (choice : Choice α) (name : String) : Except Fault α :=
  match choice.names.lookup name with
  | some value => .ok value
  | none => .error (.unknownVariant name (choice.names.map (·.1)))

def ofPieces (choice : Choice α) (pieces : List Piece) : Except Fault α := do
  choice.ofName (String.ofList (← decode pieces none))

/-- The value that an object names by its only key, whose own value is `null`. -/
def ofMembers (choice : Choice α) (members : List (List Piece × Value)) (ending : Option Flaw) :
    Except Fault α :=
  match members, ending with
  | [], none => .error .expectedValue
  | [], some flaw => .error flaw.fault
  | (key, value) :: others, ending => do
    let chosen ← choice.ofPieces key
    match value with
    | .null =>
      match others, ending with
      | [], none => return chosen
      | [], some .endInObject => throw .endInObject
      | _, _ => throw .expectedValue
    | _ => throw (value.mismatch "unit")

/-- Where an object is refused: at its key, behind an unknown name, at a value that is not `null`,
or where it should have been closed. -/
def objectStop (choice : Choice α) (inside : List Char) : List (List Piece × Value) → Stop
  | [] => Json.objectStop inside
  | (key, value) :: _ =>
    let place? : Option Stop :=
      match (decode key none).map String.ofList with
      | .error _ => none
      | .ok name =>
        if (choice.ofName name).isOk then
          (memberText? 0 inside).map fun text =>
            match value with
            | .null => ⟨skipBlanks (stop .value [] text).rest, 0⟩
            | _ => value.mismatchStop text
        else (behindKey? 0 inside).map fun text => ⟨text, 0⟩
    place?.getD (Json.objectStop inside)

/-- A choice is written as its name. It is also read from an object with the name as its only
key. -/
def form (choice : Choice α) : Form α where
  read
    | .text pieces => choice.ofPieces pieces
    | .object members ending => choice.ofMembers members ending
    | .broken (.word _) => .error .expectedValue
    | .broken (.numeral _) => .error .expectedValue
    | .broken flaw => .error flaw.fault
    | _ => .error .expectedValue
  stop
    | .text _, text => Json.stop .value [] text
    | .object members _, text => choice.objectStop text.tail members
    | .broken (.quotation _ _), text => Json.stop .value [] text
    | _, text => ⟨text, 1⟩
  write value := .text (choice.name value)

end Choice

/-- A field of a record, with a form of its own and two accessors. -/
structure Field (α : Type) where
  of ::
  {β : Type}
  key : String
  required : Bool
  form : Form β
  get : α → β
  set : β → α → α

namespace Field

variable {α : Type}

def read (field : Field α) (value : Value) (record : α) : Except Fault α :=
  (field.form.read value).map fun given => field.set given record

def write (field : Field α) (record : α) : Document :=
  field.form.write (field.get record)

end Field

/-- A record type as texts know it. -/
structure Record (α : Type) where
  name : String
  base : α
  /-- The fields in writing order, which is also the order of a list that gives them. -/
  fields : List (Field α)

namespace Record

variable {α : Type}

/-- Reads members in text order. A key counts as given as soon as it is met; members with unknown
keys are passed over. -/
def readMembers (record : Record α) :
    List (List Piece × Value) → List String → α → Except Fault (List String × α)
  | [], given, value => .ok (given, value)
  | (pieces, member) :: others, given, value => do
    let key := String.ofList (← decode pieces none)
    match record.fields.find? fun field => field.key = key with
    | some field =>
      if key ∈ given then throw (.duplicateField key)
      else record.readMembers others (key :: given) (← field.read member value)
    | none =>
      match member.flaw? with
      | some flaw => throw flaw.passingFault
      | none => record.readMembers others given value

def ofMembers (record : Record α) (members : List (List Piece × Value)) (ending : Option Flaw) :
    Except Fault α := do
  let (given, value) ← record.readMembers members [] record.base
  match ending with
  | some flaw => throw flaw.fault
  | none =>
    match record.fields.find? fun field => field.required && !given.contains field.key with
    | some field => throw (.missingField field.key)
    | none => return value

/-- What follows the items of a list that gave every field. -/
def afterLastField : List Value → Option Flaw → Option Fault
  | [], none => none
  | [], some .endInList => some .endInList
  | [], some .listCommaThenClose => some .trailingComma
  | _, _ => some .trailingCharacters

/-- Reads items, of which `count` were read before, as the given fields. -/
def readItems (record : Record α) (ending : Option Flaw) :
    List (Field α) → List Value → Nat → α → Except Fault α
  | [], items, _, value =>
    match afterLastField items ending with
    | some fault => .error fault
    | none => .ok value
  | field :: fields, item :: items, count, value => do
    record.readItems ending fields items (count + 1) (← field.read item value)
  | field :: fields, [], count, value =>
    match ending with
    | some flaw => .error flaw.fault
    | none =>
      if field.required then
        .error (.shortList count record.name record.fields.length)
      else record.readItems ending fields [] (count + 1) value

/-- Where an object is refused for one of its members: behind a key that was given before, or inside
the value. The closing bracket is read even of an object that is refused. -/
def memberStop? (record : Record α) (inside : List Char) :
    List (List Piece × Value) → Nat → List String → Option Stop
  | [], _, _ => none
  | (pieces, member) :: others, index, given =>
    match (decode pieces none).map String.ofList with
    | .error _ => none
    | .ok key =>
      match record.fields.find? fun field => field.key = key with
      | some field =>
        if key ∈ given then
          (behindKey? index inside).map fun text =>
            match skipBlanks text with
            | '\x7d' :: rest => ⟨rest, 0⟩
            | rest => ⟨rest, 0⟩
        else if (field.form.read member).isOk then
          record.memberStop? inside others (index + 1) (key :: given)
        else (memberText? index inside).map (field.form.stop member)
      | none =>
        if member.flaw?.isSome then none
        else record.memberStop? inside others (index + 1) given

/-- Where a list is refused for one of its items: inside it, or before one too many. -/
def itemStop? (inside : List Char) : List (Field α) → List Value → Nat → Option Stop
  | [], _ :: _, index => (itemText? index inside).map fun text => ⟨text, 1⟩
  | field :: fields, item :: items, index =>
    if (field.form.read item).isOk then itemStop? inside fields items (index + 1)
    else (itemText? index inside).map (field.form.stop item)
  | _, [], _ => none

/-- A record is written as an object. It is also read from a list of its fields' values. -/
def form (record : Record α) : Form α where
  read
    | .object members ending => record.ofMembers members ending
    | .list items ending => record.readItems ending record.fields items 0 record.base
    | value => .error (value.mismatch ("struct " ++ record.name))
  stop
    | .object members _, text =>
      (record.memberStop? text.tail members 0 []).getD (objectStop text.tail)
    | .list items _, text => (itemStop? text.tail record.fields items 0).getD (listStop text.tail)
    | value, text => value.mismatchStop text
  write value := .object (record.fields.map fun field => (field.key, field.write value))

end Record

/-- Reads a whole text. Only blanks may follow the value. -/
def Form.readText {α : Type} (form : Form α) (text : String) : Except Fault α := do
  let (value, rest) := parse text.toList
  let result ← form.read value
  if rest.all isBlank then return result else throw .trailingCharacters

/-- The place at which a text is refused. -/
def Form.position {α : Type} (form : Form α) (text : String) : Position :=
  let (value, rest) := parse text.toList
  let stop :=
    if (form.read value).isOk then ⟨skipBlanks rest, 1⟩
    else form.stop value (skipBlanks text.toList)
  stop.position text.toList

end TurtleGraphics.Json
