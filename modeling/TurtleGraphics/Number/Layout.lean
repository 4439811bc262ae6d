import TurtleGraphics.Number.Shortest

set_option autoImplicit false

/-!
# Writing doubles

A layout decides where positional notation ends and how an exponent is written; the digits are
always the shortest ones. The layouts of particular outputs are values of `Layout` and stand
beside those outputs.
-/

namespace TurtleGraphics.Number

/-- The decisions of one way to write doubles, for a value `d.ddd * 10 ^ e`. -/
structure Layout where
  /-- The least `e` that is written positionally. -/
  plainFrom : Int
  /-- The greatest `e` that is written positionally. -/
  plainTo : Int
  /-- Whether a positive exponent carries its sign. -/
  plusSign : Bool
  /-- The choice between two equally near shortest decimals. -/
  tie : Tie
deriving DecidableEq, Repr

/-- Decimal digits, most significant first and without leading zeros. -/
def digitChars (n : Nat) : List Char :=
  Nat.toDigits 10 n

/-- Positional notation with at least one digit on both sides of the point. `leading` is the power
of ten of the first digit. -/
def plainChars (digits : List Char) (leading : Int) : List Char :=
  if leading < 0 then
    '0' :: '.' :: (List.replicate (-leading - 1).toNat '0' ++ digits)
  else
    let whole := leading.toNat + 1
    if digits.length ≤ whole then
      digits ++ List.replicate (whole - digits.length) '0' ++ ['.', '0']
    else
      digits.take whole ++ '.' :: digits.drop whole

/-- Exponent notation, without a point when there is only one digit. -/
def scientificChars (plusSign : Bool) (digits : List Char) (leading : Int) : List Char :=
  let significand :=
    match digits with
    | first :: second :: rest => first :: '.' :: second :: rest
    | _ => digits
  let sign := if leading < 0 then ['-'] else if plusSign then ['+'] else []
  significand ++ 'e' :: (sign ++ digitChars leading.natAbs)

def Layout.decimalChars (layout : Layout) (decimal : Decimal) : List Char :=
  let digits := digitChars decimal.digits
  let leading : Int := decimal.exponent + (digits.length - 1 : Nat)
  if layout.plainFrom ≤ leading ∧ leading ≤ layout.plainTo then
    plainChars digits leading
  else
    scientificChars layout.plusSign digits leading

/-- A sign that is written only when it is negative. -/
def signChars (sign : Float.Model.UnpackedFloat.Sign) : List Char :=
  match sign with
  | .negative => ['-']
  | .positive => []

/-- The text of any double. The sign of zero is kept, and non-finite values have names. -/
def Layout.chars (layout : Layout) (value : Float) : List Char :=
  match value.toModel.unpack with
  | .notANumber => "NaN".toList
  | .infinity sign => signChars sign ++ "inf".toList
  | .zero sign => signChars sign ++ "0.0".toList
  | .finite sign mantissa exponent _ =>
    signChars sign ++ layout.decimalChars (shortest layout.tie mantissa exponent)

def Layout.write (layout : Layout) (value : Float) : String :=
  String.ofList (layout.chars value)

end TurtleGraphics.Number
