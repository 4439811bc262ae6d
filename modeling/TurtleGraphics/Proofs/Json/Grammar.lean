import TurtleGraphics.Json.Form

set_option autoImplicit false

/-!
# The grammar of JSON

What a well-formed text of a value looks like, without a parser: which spellings a numeral, a quoted
text, a list and an object have, with any blanks between their tokens.
-/

namespace TurtleGraphics.Json

def IsBlanks (chars : List Char) : Prop :=
  ∀ c ∈ chars, isBlank c = true

theorem isBlanks_nil : IsBlanks [] := nofun

def AreDigits (chars : List Char) : Prop :=
  ∀ c ∈ chars, c.isDigit = true

/-! ### Numerals -/

structure ExponentText where
  capital : Bool
  /-- Whether the exponent is negative, if it has a sign. -/
  sign : Option Bool
  digits : List Char
  someDigit : digits ≠ []
  areDigits : AreDigits digits

namespace ExponentText

def chars (exponent : ExponentText) : List Char :=
  (if exponent.capital then 'E' else 'e') ::
    (match exponent.sign with
      | none => exponent.digits
      | some true => '-' :: exponent.digits
      | some false => '+' :: exponent.digits)

end ExponentText

/-- The digits before the point: a zero alone, or digits that do not start with one. -/
def AreWhole (digits : List Char) : Prop :=
  digits = ['0'] ∨ digits ≠ [] ∧ AreDigits digits ∧ digits.head? ≠ some '0'

structure NumeralText where
  negative : Bool
  whole : List Char
  /-- The digits after the point. There is no point without them. -/
  fraction : List Char
  exponent : Option ExponentText
  areWhole : AreWhole whole
  areFraction : AreDigits fraction

namespace NumeralText

def fractionChars (text : NumeralText) : List Char :=
  match text.fraction with
  | [] => []
  | digit :: digits => '.' :: digit :: digits

def exponentChars (text : NumeralText) : List Char :=
  match text.exponent with
  | none => []
  | some exponent => exponent.chars

def unsignedChars (text : NumeralText) : List Char :=
  text.whole ++ (text.fractionChars ++ text.exponentChars)

def chars (text : NumeralText) : List Char :=
  if text.negative then '-' :: text.unsignedChars else text.unsignedChars

/-- What a numeral's text denotes. -/
def numeral (text : NumeralText) : Numeral where
  negative := text.negative
  significand := Number.ofDigits (text.whole ++ text.fraction)
  scale := text.fraction.length
  exponentNegative := (text.exponent.bind ExponentText.sign).getD false
  exponent := (text.exponent.map fun exponent => Number.ofDigits exponent.digits).getD 0
  isWhole := text.fraction.isEmpty && text.exponent.isNone
  plain := by
    intro plain
    simp only [Bool.and_eq_true, List.isEmpty_iff, Option.isNone_iff_eq_none] at plain
    simp [plain.1, plain.2]

end NumeralText

/-! ### Quoted texts -/

/-- The characters between the quotes of a text, and the pieces they are read as. -/
inductive Quoted : List Piece → List Char → Prop where
  | nil : Quoted [] []
  | plain {c pieces chars} :
      c ≠ '"' → c ≠ '\\' → ¬ c < ' ' → Quoted pieces chars →
      Quoted (.plain c :: pieces) (c :: chars)
  | escape {c meant pieces chars} :
      shortEscape? c = some meant → Quoted pieces chars →
      Quoted (.plain meant :: pieces) ('\\' :: c :: chars)
  | unit {first second third fourth a b c d pieces chars} :
      hexValue? first = some a → hexValue? second = some b →
      hexValue? third = some c → hexValue? fourth = some d → Quoted pieces chars →
      Quoted (.unit (16 * (16 * (16 * a + b) + c) + d) :: pieces)
        ('\\' :: 'u' :: first :: second :: third :: fourth :: chars)

/-- A quoted text with its quotes. -/
def QuotedText (pieces : List Piece) (chars : List Char) : Prop :=
  ∃ inner, Quoted pieces inner ∧ chars = '"' :: (inner ++ ['"'])

/-! ### Values -/

/-- What a stretch of text can be. -/
inductive Part where
  | value (value : Value)
  /-- What stands between the brackets of a list that has items. -/
  | items (items : List Value)
  /-- What stands between the braces of an object that has members. -/
  | members (members : List (List Piece × Value))

/-- The grammar. Blanks may surround every item, every key and every member's value. -/
inductive Spelled : Part → List Char → Prop where
  | null : Spelled (.value .null) ['n', 'u', 'l', 'l']
  | yes : Spelled (.value (.boolean true)) ['t', 'r', 'u', 'e']
  | no : Spelled (.value (.boolean false)) ['f', 'a', 'l', 's', 'e']
  | number (text : NumeralText) : Spelled (.value (.number text.numeral)) text.chars
  | text {pieces chars} : QuotedText pieces chars → Spelled (.value (.text pieces)) chars
  | emptyList {blanks} : IsBlanks blanks →
      Spelled (.value (.list [] none)) ('[' :: (blanks ++ [']']))
  | list {items chars} : Spelled (.items items) chars →
      Spelled (.value (.list items none)) ('[' :: (chars ++ [']']))
  | emptyObject {blanks} : IsBlanks blanks →
      Spelled (.value (.object [] none)) ('\x7b' :: (blanks ++ ['\x7d']))
  | object {members chars} : Spelled (.members members) chars →
      Spelled (.value (.object members none)) ('\x7b' :: (chars ++ ['\x7d']))
  | lastItem {value before chars after} : IsBlanks before → IsBlanks after →
      Spelled (.value value) chars →
      Spelled (.items [value]) (before ++ (chars ++ after))
  | item {value items before chars after others} : IsBlanks before → IsBlanks after →
      Spelled (.value value) chars → Spelled (.items items) others →
      Spelled (.items (value :: items)) (before ++ (chars ++ (after ++ ',' :: others)))
  | lastMember {key value before keyChars beforeColon afterColon chars after} :
      IsBlanks before → IsBlanks beforeColon → IsBlanks afterColon → IsBlanks after →
      QuotedText key keyChars → Spelled (.value value) chars →
      Spelled (.members [(key, value)])
        (before ++ (keyChars ++ (beforeColon ++ ':' :: (afterColon ++ (chars ++ after)))))
  | member {key value members before keyChars beforeColon afterColon chars after others} :
      IsBlanks before → IsBlanks beforeColon → IsBlanks afterColon → IsBlanks after →
      QuotedText key keyChars → Spelled (.value value) chars →
      Spelled (.members members) others →
      Spelled (.members ((key, value) :: members))
        (before ++ (keyChars ++ (beforeColon ++ ':' :: (afterColon ++ (chars ++
          (after ++ ',' :: others))))))

/-- The texts of a value, with blanks around it. -/
def IsText (value : Value) (text : String) : Prop :=
  ∃ before chars after, IsBlanks before ∧ IsBlanks after ∧ Spelled (.value value) chars ∧
    text.toList = before ++ (chars ++ after)

end TurtleGraphics.Json
