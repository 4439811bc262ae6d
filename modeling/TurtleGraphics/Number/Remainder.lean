set_option autoImplicit false

/-!
# Remainders of doubles

The remainder of a truncating division is itself a double, so it needs no rounding: it is computed
on the exact binary value.
-/

namespace TurtleGraphics.Number

open Float.Model

/-- The remainder of `value` divided by a positive whole number, with the sign of `value` and a
smaller magnitude than `period`. It is exact; a value with no remainder, an infinity or a NaN,
gives NaN. -/
def remainder (value : Float) (period : Nat) : Float :=
  if value.abs < period.toFloat then value
  else
    match value.toModel.unpack with
    | .finite sign mantissa exponent _ =>
      let whole := (mantissa <<< exponent.toNat) % (period <<< (-exponent).toNat)
      .ofModel (pack (UnpackedFloat.round Format.binary64 sign whole (min exponent 0)))
    | _ => 0.0 / 0.0

end TurtleGraphics.Number
