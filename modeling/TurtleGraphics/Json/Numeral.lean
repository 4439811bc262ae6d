import TurtleGraphics.Json.Fault
import TurtleGraphics.Number.Numeral

set_option autoImplicit false

/-!
# JSON numerals

A numeral is scanned one character at a time. The scanner knows at every character whether the
numeral goes on, is complete, or can no longer become one. What a complete numeral denotes is a
separate question: a whole number where 64 bits hold it, else a double.
-/

namespace TurtleGraphics.Json

/-- A complete or growing numeral: `significand * 10 ^ (± exponent - scale)` with a sign. -/
structure Numeral where
  negative : Bool
  /-- All digits before the exponent mark, read as one number. -/
  significand : Nat
  scale : Nat
  exponentNegative : Bool
  exponent : Nat
  isWhole : Bool
  /-- A numeral with a point or an exponent is not whole. -/
  plain : isWhole = true → scale = 0 ∧ exponent = 0
deriving DecidableEq, Repr

inductive Quantity where
  | integer (value : Int)
  | float (value : Float)

def Quantity.toFloat : Quantity → Float
  | .integer value => Number.ofDecimal (value < 0) value.natAbs 0
  | .float value => value

/-- The greatest power of ten that a double is multiplied or divided by at once. -/
def greatestPower : Nat := 308

def powerOfTen (places : Nat) : Float := Number.ofDecimal false 1 places

/-- Divides by the greatest power a number of times, or until nothing is left. -/
def divideRepeatedly : Nat → Float → Float
  | 0, double => double
  | times + 1, double =>
    if double == 0.0 then double
    else divideRepeatedly times (double / powerOfTen greatestPower)

/-- A double with its point moved, by as few roundings as there are powers of ten to go by. What is
too large becomes infinite. -/
def movePoint (double : Float) (exponent : Int) : Float :=
  let places := exponent.natAbs
  if exponent < 0 then
    let times := (places - 1) / greatestPower
    divideRepeatedly times double / powerOfTen (places - times * greatestPower)
  else if places ≤ greatestPower then double * powerOfTen places
  else if double == 0.0 then double
  else 1.0 / 0.0

namespace Numeral

def blank : Numeral := ⟨false, 0, 0, false, 0, true, fun _ => ⟨rfl, rfl⟩⟩

instance : Inhabited Numeral := ⟨blank⟩

def wholeDigits (numeral : Numeral) : List Char :=
  Number.digitChars (numeral.significand / Nat.pow 10 numeral.scale)

def fractionDigits (numeral : Numeral) : List Char :=
  let digits := Number.digitChars (numeral.significand % Nat.pow 10 numeral.scale)
  if numeral.scale = 0 then [] else List.replicate (numeral.scale - digits.length) '0' ++ digits

/-- Appends digits to a significand up to the first one with which it would not fit 64 bits. The
second part is how many were appended. -/
def absorb : Nat → List Char → Nat × Nat
  | significand, [] => (significand, 0)
  | significand, digit :: digits =>
    let longer := 10 * significand + Number.digitValue digit
    if longer < UInt64.size then
      let (absorbed, count) := absorb longer digits
      (absorbed, count + 1)
    else (significand, 0)

/-- The double that a numeral is read as, infinite if the numeral is too large. The significand is
cut to 64 bits and rounded before its point is moved, so this is close to the exact value but not
always the double nearest to it. Digits before the point that are cut off still count as places;
those after it do not, and they go on being appended where digits before the point were cut off. -/
def toFloat (numeral : Numeral) : Float :=
  let (whole, taken) := absorb 0 numeral.wholeDigits
  let (significand, places) := absorb whole numeral.fractionDigits
  let cut := numeral.wholeDigits.length - taken
  let exponent : Int := if numeral.exponentNegative then -numeral.exponent else numeral.exponent
  let magnitude := movePoint (Number.ofDecimal false significand 0) (cut - places + exponent)
  if numeral.negative then -magnitude else magnitude

/-- A whole numeral that fits 64 bits, unsigned or negative, is an integer. Every other numeral,
negative zero included, is a double, which must be finite. -/
def quantity (numeral : Numeral) : Except Fault Quantity :=
  if numeral.isWhole ∧ ¬ numeral.negative ∧ numeral.significand < UInt64.size then
    .ok (.integer numeral.significand)
  else if numeral.isWhole ∧ numeral.negative ∧ 0 < numeral.significand ∧
      2 * numeral.significand ≤ UInt64.size then
    .ok (.integer (-numeral.significand))
  else if numeral.toFloat.isFinite then
    .ok (.float numeral.toFloat)
  else
    .error .numberOutOfRange

end Numeral

/-- How far a numeral has been scanned. -/
inductive NumeralPhase where
  | sign
  /-- After a leading zero, which no further digit may follow. -/
  | zero
  | whole
  | point
  | fraction
  | mark
  | markSign
  | exponent
deriving DecidableEq, Repr

structure NumeralScan where
  phase : NumeralPhase
  numeral : Numeral
deriving DecidableEq, Repr

/-- What one more character means to a numeral. -/
inductive NumeralStep where
  | more (scan : NumeralScan)
  /-- The numeral ended before this character. -/
  | complete (numeral : Numeral)
  | broken

namespace NumeralScan

/-- The scan of a numeral that starts with this character. -/
def start? (c : Char) : Option NumeralScan :=
  if c = '-' then some ⟨.sign, { Numeral.blank with negative := true }⟩
  else if c = '0' then some ⟨.zero, Numeral.blank⟩
  else if c.isDigit then some ⟨.whole, { Numeral.blank with significand := Number.digitValue c }⟩
  else none

def digit (scan : NumeralScan) (phase : NumeralPhase) (c : Char) : NumeralStep :=
  .more ⟨phase,
    { scan.numeral with significand := 10 * scan.numeral.significand + Number.digitValue c }⟩

def fractionDigit (scan : NumeralScan) (c : Char) : NumeralStep :=
  .more ⟨.fraction,
    { scan.numeral with
      significand := 10 * scan.numeral.significand + Number.digitValue c
      scale := scan.numeral.scale + 1
      isWhole := false
      plain := nofun }⟩

def exponentDigit (scan : NumeralScan) (c : Char) : NumeralStep :=
  .more ⟨.exponent,
    { scan.numeral with
      exponent := 10 * scan.numeral.exponent + Number.digitValue c
      isWhole := false
      plain := nofun }⟩

def afterWhole (scan : NumeralScan) (c : Char) : NumeralStep :=
  if c = '.' then .more ⟨.point, { scan.numeral with isWhole := false, plain := nofun }⟩
  else if c = 'e' ∨ c = 'E' then
    .more ⟨.mark, { scan.numeral with isWhole := false, plain := nofun }⟩
  else .complete scan.numeral

/-- One more character. A character that cannot belong to a numeral completes it where a numeral
may end, and breaks it elsewhere. -/
def step (scan : NumeralScan) (c : Char) : NumeralStep :=
  match scan.phase with
  | .sign =>
    if c = '0' then .more { scan with phase := .zero }
    else if c.isDigit then scan.digit .whole c
    else .broken
  | .zero => if c.isDigit then .broken else scan.afterWhole c
  | .whole => if c.isDigit then scan.digit .whole c else scan.afterWhole c
  | .point => if c.isDigit then scan.fractionDigit c else .broken
  | .fraction =>
    if c.isDigit then scan.fractionDigit c
    else if c = 'e' ∨ c = 'E' then .more { scan with phase := .mark }
    else .complete scan.numeral
  | .mark =>
    if c = '+' then .more { scan with phase := .markSign }
    else if c = '-' then
      .more ⟨.markSign, { scan.numeral with exponentNegative := true }⟩
    else if c.isDigit then scan.exponentDigit c
    else .broken
  | .markSign => if c.isDigit then scan.exponentDigit c else .broken
  | .exponent => if c.isDigit then scan.exponentDigit c else .complete scan.numeral

def finish? (scan : NumeralScan) : Option Numeral :=
  match scan.phase with
  | .zero | .whole | .fraction | .exponent => some scan.numeral
  | .sign | .point | .mark | .markSign => none

end NumeralScan

end TurtleGraphics.Json
