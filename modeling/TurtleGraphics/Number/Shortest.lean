set_option autoImplicit false

/-!
# Shortest decimals

A positive binary value stands for every real number that rounds to it. This module finds, in
exact arithmetic, the decimal with the fewest digits among those reals, and the one nearest to
the value if several decimals have that few.

The search walks the decimal grids from coarse to fine. On each grid only the two neighbours of
the value matter: if any point of a grid rounds to the value, so does one of those two. What is
found on a grid is one of them and does round to the value (`RoundingInterval.hit?_contains`).
-/

namespace TurtleGraphics.Number

/-- The decimal `digits * 10 ^ exponent`. -/
structure Decimal where
  digits : Nat
  exponent : Int
deriving DecidableEq, Repr

/-- The choice between two decimals at exactly the same distance. -/
inductive Tie where
  | toEven
  | up
deriving DecidableEq, Repr

/-- The lower or the upper one of two consecutive grid points, for a value midway between them. -/
def Tie.pick (tie : Tie) (lower : Nat) : Nat :=
  match tie with
  | .toEven => lower + lower % 2
  | .up => lower + 1

theorem Tie.pick_eq_or (tie : Tie) (lower : Nat) :
    tie.pick lower = lower ∨ tie.pick lower = lower + 1 := by
  cases tie with
  | toEven => simp only [Tie.pick]; omega
  | up => exact .inr rfl

/-- The reals that round to one binary value. All three marks count in units of `2 ^ exponent`,
a quarter of the value's last place. -/
structure RoundingInterval where
  low : Nat
  value : Nat
  high : Nat
  exponent : Int
  /-- Whether the two ends themselves round to the value. -/
  closed : Bool
deriving DecidableEq, Repr

/-- The least mantissa of a normal double, which is the mantissa of every power of two among
them. -/
def leastNormalMantissa : Nat := Nat.pow 2 52

/-- The least exponent of a double, which all subnormal values share. -/
def leastExponent : Int := -1074

namespace RoundingInterval

/-- The reals nearest to the double `mantissa * 2 ^ exponent`. The gap below a power of two is half
the gap above it, and an end belongs to the neighbour with the even mantissa. -/
def around (mantissa : Nat) (exponent : Int) : RoundingInterval where
  low := 4 * mantissa - if mantissa = leastNormalMantissa ∧ exponent ≠ leastExponent then 1 else 2
  value := 4 * mantissa
  high := 4 * mantissa + 2
  exponent := exponent - 2
  closed := mantissa % 2 == 0

/-- What a mark is multiplied by, to be compared with multiples of `unit`. -/
def scale (interval : RoundingInterval) (place : Int) : Nat :=
  Nat.pow 2 interval.exponent.toNat * Nat.pow 10 (-place).toNat

/-- What a multiple of `10 ^ place` is multiplied by, to be compared with scaled marks. -/
def unit (interval : RoundingInterval) (place : Int) : Nat :=
  Nat.pow 2 (-interval.exponent).toNat * Nat.pow 10 place.toNat

/-- Whether a multiple of `10 ^ place` rounds to the value. -/
def contains (interval : RoundingInterval) (place : Int) (multiple : Nat) : Bool :=
  let scale := interval.scale place
  let point := multiple * interval.unit place
  if interval.closed then interval.low * scale ≤ point && point ≤ interval.high * scale
  else interval.low * scale < point && point < interval.high * scale

/-- The greatest multiple of `10 ^ place` that is not above the value. -/
def lower (interval : RoundingInterval) (place : Int) : Nat :=
  interval.value * interval.scale place / interval.unit place

def nearer (interval : RoundingInterval) (tie : Tie) (place : Int) : Nat :=
  let lower := interval.lower place
  let value := interval.value * interval.scale place
  let below := value - lower * interval.unit place
  let above := (lower + 1) * interval.unit place - value
  if below < above then lower
  else if above < below then lower + 1
  else tie.pick lower

/-- The multiple of `10 ^ place` that is next to the value and rounds to it, the nearer one if both
neighbours do. -/
def hit? (interval : RoundingInterval) (tie : Tie) (place : Int) : Option Nat :=
  let lower := interval.lower place
  match interval.contains place lower, interval.contains place (lower + 1) with
  | false, false => none
  | true, false => some lower
  | false, true => some (lower + 1)
  | true, true => some (interval.nearer tie place)

/-- The first hit on `grids` successively finer grids. The next finer grid is taken as it stands,
with the point below the value, if none of them is hit. -/
def search (interval : RoundingInterval) (tie : Tie) : Nat → Int → Decimal
  | 0, place => ⟨interval.lower place, place⟩
  | grids + 1, place =>
    match interval.hit? tie place with
    | some multiple => ⟨multiple, place⟩
    | none => interval.search tie grids (place - 1)

theorem nearer_eq_or (interval : RoundingInterval) (tie : Tie) (place : Int) :
    interval.nearer tie place = interval.lower place ∨
      interval.nearer tie place = interval.lower place + 1 := by
  simp only [nearer]
  split
  · exact .inl rfl
  · split
    · exact .inr rfl
    · exact tie.pick_eq_or _

theorem hit?_contains {interval : RoundingInterval} {tie : Tie} {place : Int} {multiple : Nat}
    (hit : interval.hit? tie place = some multiple) :
    interval.contains place multiple = true := by
  simp only [hit?] at hit
  split at hit
  case h_1 => simp at hit
  case h_2 below _ => cases hit; exact below
  case h_3 _ above => cases hit; exact above
  case h_4 below above =>
    cases hit
    rcases interval.nearer_eq_or tie place with equal | equal
    · rw [equal]; exact below
    · rw [equal]; exact above

end RoundingInterval

/-- A place above that of the leading decimal digit of `mantissa * 2 ^ exponent`, by at most two:
`30103 / 100000` approximates the decimal logarithm of two from above. -/
def coarsestPlace (mantissa : Nat) (exponent : Int) : Int :=
  (mantissa.log2 + exponent) * 30103 / 100000 + 2

/-- The fewest digits that read back as the double `mantissa * 2 ^ exponent`, which must be
positive. Seventeen digits always suffice, so twenty grids from the coarsest one do. -/
def shortest (tie : Tie) (mantissa : Nat) (exponent : Int) : Decimal :=
  (RoundingInterval.around mantissa exponent).search tie 20 (coarsestPlace mantissa exponent)

end TurtleGraphics.Number
