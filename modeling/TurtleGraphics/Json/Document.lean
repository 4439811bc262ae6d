import TurtleGraphics.Json.Layout
import TurtleGraphics.Text.Quoted

set_option autoImplicit false

/-!
# Writing JSON

A document is a value to be written. It has a compact text without blanks and an indented one;
both hold the same tokens. JSON has no numeral for a non-finite number, which is written as `null`.
-/

namespace TurtleGraphics.Json

/-- A value to be written, with its members in writing order. -/
inductive Document where
  | number (value : Float)
  | count (value : Nat)
  | text (value : String)
  | list (items : List Document)
  | object (members : List (String × Document))

namespace Document

/-- A double as a numeral, or `null` if it is not finite. -/
def numberChars (value : Float) : List Char :=
  if value.isFinite then numberLayout.chars value else "null".toList

/-- A character as it stands between quotes. Only quotes, backslashes and controls are escaped. -/
def textChar (c : Char) : List Char :=
  match c with
  | '"' => ['\\', '"']
  | '\\' => ['\\', '\\']
  | '\x08' => ['\\', 'b']
  | '\t' => ['\\', 't']
  | '\n' => ['\\', 'n']
  | '\x0c' => ['\\', 'f']
  | '\r' => ['\\', 'r']
  | _ =>
    if c < ' ' then
      let digits := Text.hexDigits c.toNat
      '\\' :: 'u' :: (List.replicate (4 - digits.length) '0' ++ digits)
    else [c]

def textChars (text : String) : List Char :=
  '"' :: (text.toList.flatMap textChar ++ ['"'])

/-- The parts of a list or an object between its brackets, with commas between them. `lead` stands
before each part and `trail` before the closing bracket; without parts the brackets stand alone. -/
def enclosed (opening closing : Char) (lead trail : List Char) : List (List Char) → List Char
  | [] => [opening, closing]
  | first :: others =>
    opening :: (lead ++ first ++ others.flatMap (fun part => ',' :: (lead ++ part)) ++
      trail ++ [closing])

mutual

def compactChars : Document → List Char
  | .number value => numberChars value
  | .count value => Number.digitChars value
  | .text value => textChars value
  | .list items => enclosed '[' ']' [] [] (compactItems items)
  | .object members => enclosed '\x7b' '\x7d' [] [] (compactMembers members)

def compactItems : List Document → List (List Char)
  | [] => []
  | item :: items => compactChars item :: compactItems items

def compactMembers : List (String × Document) → List (List Char)
  | [] => []
  | (key, value) :: members =>
    (textChars key ++ ':' :: compactChars value) :: compactMembers members

end

/-- A line break and the indentation of a level, two blanks for each. -/
def newLine (level : Nat) : List Char :=
  '\n' :: List.replicate (2 * level) ' '

mutual

/-- The indented text of a document at a level of nesting. -/
def indentedChars (level : Nat) : Document → List Char
  | .number value => numberChars value
  | .count value => Number.digitChars value
  | .text value => textChars value
  | .list items =>
    enclosed '[' ']' (newLine (level + 1)) (newLine level) (indentedItems (level + 1) items)
  | .object members =>
    enclosed '\x7b' '\x7d' (newLine (level + 1)) (newLine level)
      (indentedMembers (level + 1) members)

def indentedItems (level : Nat) : List Document → List (List Char)
  | [] => []
  | item :: items => indentedChars level item :: indentedItems level items

def indentedMembers (level : Nat) : List (String × Document) → List (List Char)
  | [] => []
  | (key, value) :: members =>
    (textChars key ++ ':' :: ' ' :: indentedChars level value) :: indentedMembers level members

end

def compact (document : Document) : String :=
  String.ofList document.compactChars

/-- The text with one item or member on a line, as a string. -/
def indented (document : Document) : String :=
  String.ofList (document.indentedChars 0)

end Document

end TurtleGraphics.Json
