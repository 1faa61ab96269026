import SqlGauge.Binary64.Basic
import SqlGauge.Text.Digit

/-!
# Decimal numerals

A numeral is an optional sign, digits with an optional fraction, or a point and digits, and an
optional exponent; digits may be those of any script. `Decimal.read?` accepts exactly these
texts, and `Decimal.toBinary64` is the double nearest to the number that one denotes, whatever its
length and exponent.
-/

namespace SqlGauge

/-- The number `± coefficient × 10 ^ exponent`. -/
structure Decimal where
  negative : Bool
  coefficient : Nat
  exponent : Int
deriving DecidableEq

/-! ## Reading -/

/-- Splits an optional sign off; true is the minus sign. -/
def takeSign : List Char → Bool × List Char
  | '-' :: rest => (true, rest)
  | '+' :: rest => (false, rest)
  | text => (false, text)

/-- Splits an optional fraction off: a point and the digits after it, which may be none. -/
def takeFraction : List Char → List Nat × List Char
  | '.' :: rest => Text.spanDigits rest
  | text => ([], text)

/-- The exponent a text consists of. No text at all is the exponent zero; otherwise it is the
letter, an optional sign and at least one digit, and nothing more. -/
def exponentOf? : List Char → Option Int
  | [] => some 0
  | e :: rest =>
    let (negative, digits) := takeSign rest
    let (values, after) := Text.spanDigits digits
    if (e = 'e' ∨ e = 'E') ∧ values ≠ [] ∧ after = [] then
      some (Binary64.signed negative (Text.ofDigits values))
    else none

namespace Decimal

/-- Reads a numeral that is the whole text. -/
def read? (text : List Char) : Option Decimal :=
  let (negative, body) := takeSign text
  let (whole, afterWhole) := Text.spanDigits body
  let (fraction, afterFraction) := takeFraction afterWhole
  if whole = [] ∧ fraction = [] then none
  else (exponentOf? afterFraction).map fun exponent =>
    { negative
      coefficient := Text.ofDigits (whole ++ fraction)
      exponent := exponent - fraction.length }

/-! ## The nearest double -/

/-- The units of the double nearest to `coefficient × 10 ^ exponent`, before the range is looked
at. -/
def units (coefficient : Nat) : Int → Nat
  | .ofNat exponent => Binary64.roundUnits (coefficient * Nat.pow 10 exponent * unitsPerOne) 1
  | .negSucc exponent => Binary64.roundUnits (coefficient * unitsPerOne) (Nat.pow 10 (exponent + 1))

/-- Whether a numeral other than zero exceeds every double by its exponent alone. -/
def isHuge (d : Decimal) : Bool :=
  d.exponent > 400

/-- Whether a numeral is below half the least double by its exponent and the length of its
coefficient alone. -/
def isTiny (d : Decimal) : Bool :=
  d.exponent + d.coefficient.log2 + 1 < -330

/-- The double nearest to the number. Numerals far out of range are recognised by their exponent,
so that no power of ten with a huge exponent is ever formed. -/
def toBinary64 (d : Decimal) : Binary64 :=
  if d.coefficient = 0 ∨ d.isTiny then .zero d.negative
  else if d.isHuge then .infinite d.negative
  else .ofUnits d.negative (units d.coefficient d.exponent)

end Decimal

end SqlGauge
