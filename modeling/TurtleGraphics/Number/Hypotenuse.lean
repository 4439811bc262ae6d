set_option autoImplicit false

/-!
# Hypotenuse of doubles

The length of the diagonal is rounded once: the squares are added exactly, whatever their sizes,
so nothing overflows or underflows on the way.
-/

namespace TurtleGraphics.Number

open Float.Model

/-- The square root of `x * x + y * y`, correctly rounded, for finite arguments given as magnitudes
`mantissa * 2 ^ exponent`. -/
def diagonal (xMantissa : Nat) (xExponent : Int) (yMantissa : Nat) (yExponent : Int) : Float :=
  let exponent := min xExponent yExponent
  let x := xMantissa <<< (xExponent - exponent).toNat
  let y := yMantissa <<< (yExponent - exponent).toNat
  let square := x * x + y * y
  if positive : 0 < square then
    .ofModel (pack (UnpackedFloat.sqrt Format.binary64
      (.finite .positive square (2 * exponent) positive)))
  else 0.0

/-- The length of the hypotenuse over two legs. One infinite leg makes it infinite, even beside a
NaN. -/
def hypotenuse (x y : Float) : Float :=
  match x.toModel.unpack, y.toModel.unpack with
  | .infinity _, _ => 1.0 / 0.0
  | _, .infinity _ => 1.0 / 0.0
  | .notANumber, _ => 0.0 / 0.0
  | _, .notANumber => 0.0 / 0.0
  | .zero _, .zero _ => 0.0
  | .zero _, .finite _ mantissa exponent _ => diagonal 0 exponent mantissa exponent
  | .finite _ mantissa exponent _, .zero _ => diagonal mantissa exponent 0 exponent
  | .finite _ xMantissa xExponent _, .finite _ yMantissa yExponent _ =>
    diagonal xMantissa xExponent yMantissa yExponent

end TurtleGraphics.Number
