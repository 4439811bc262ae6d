set_option autoImplicit false

/-!
# Reading doubles

Decimal numerals denote the nearest double, with ties to even: too large a numeral is infinite and
too small a one is zero. `ofText?` is the grammar of a free-standing number, which also has names
for the values that no numeral denotes.
-/

namespace TurtleGraphics.Number

/-- The double nearest to `significand * 10 ^ exponent`, negated on request. Zero keeps the sign. -/
def ofDecimal (negative : Bool) (significand : Nat) (exponent : Int) : Float :=
  let magnitude := Float.ofScientific significand (exponent < 0) exponent.natAbs
  if negative then -magnitude else magnitude

def digitValue (digit : Char) : Nat :=
  digit.toNat - '0'.toNat

/-- The number that a row of digits denotes; the empty row denotes zero. -/
def ofDigits (digits : List Char) : Nat :=
  digits.foldl (fun number digit => 10 * number + digitValue digit) 0

/-- An optional sign, and what follows it. The flag says whether the sign is negative. -/
def takeSign : List Char → Bool × List Char
  | '-' :: rest => (true, rest)
  | '+' :: rest => (false, rest)
  | rest => (false, rest)

/-- The exponent after a significand: nothing, or a mark, an optional sign and at least one digit
up to the end of the text. -/
def exponentOfChars? : List Char → Option Int
  | [] => some 0
  | mark :: rest =>
    if mark = 'e' ∨ mark = 'E' then
      let (negative, digits) := takeSign rest
      if digits.isEmpty || !digits.all Char.isDigit then none
      else if negative then some (-(ofDigits digits : Int))
      else some (ofDigits digits)
    else none

/-- An unsigned numeral: digits with an optional point, at least one digit in all, and an optional
exponent. -/
def magnitudeOfChars? (negative : Bool) (text : List Char) : Option Float :=
  let whole := text.takeWhile Char.isDigit
  let afterWhole := text.dropWhile Char.isDigit
  let (fraction, rest) :=
    match afterWhole with
    | '.' :: afterPoint => (afterPoint.takeWhile Char.isDigit, afterPoint.dropWhile Char.isDigit)
    | _ => ([], afterWhole)
  if whole.isEmpty && fraction.isEmpty then none
  else
    (exponentOfChars? rest).map fun exponent =>
      ofDecimal negative (ofDigits (whole ++ fraction)) (exponent - fraction.length)

/-- A free-standing number: an optional sign before a numeral or, in any case, `inf`, `infinity`
or `nan`. Blanks are not skipped. -/
def ofText? (text : String) : Option Float :=
  let (negative, unsigned) := takeSign text.toList
  let name := String.ofList (unsigned.map Char.toLower)
  if name = "inf" ∨ name = "infinity" then
    some (if negative then -(1.0 / 0.0) else 1.0 / 0.0)
  else if name = "nan" then
    some (0.0 / 0.0)
  else
    magnitudeOfChars? negative unsigned

end TurtleGraphics.Number
