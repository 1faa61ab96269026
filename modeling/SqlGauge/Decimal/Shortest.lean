import SqlGauge.Decimal.Basic

/-!
# Decimal digits of a double

`Shortest.digits` are the fewest decimal digits that read back as a given double, and of several
such numbers the nearest to it. `significant` rounds a double to a fixed number of digits. Both
work in exact arithmetic on the units of the double.
-/

namespace SqlGauge.Decimal

/-- The number of decimal digits of a whole number; zero has none. -/
def digitCount (number : Nat) : Nat :=
  if number = 0 then 0 else digitCount (number / 10) + 1

/-- The exponent of the first decimal digit of a positive quotient: the greatest `e` with
`10 ^ e ≤ num / den`. -/
def leadingExponent (num den : Nat) : Int :=
  if den ≤ num then digitCount (num / den) - 1
  else -(digitCount ((den - 1) / num) : Int)

/-- The quotient divided by `10 ^ exponent`, again as a quotient. -/
def shifted (num den : Nat) : Int → Nat × Nat
  | .ofNat exponent => (num, den * Nat.pow 10 exponent)
  | .negSucc exponent => (num * Nat.pow 10 (exponent + 1), den)

/-- A quotient rounded to `precision` decimal digits, as a coefficient and its exponent. -/
def significant (precision : Nat) (num den : Nat) : Nat × Int :=
  let exponent := leadingExponent num den - (precision - 1 : Nat)
  let (n, d) := shifted num den exponent
  (roundHalfEven n d, exponent)

/-- The multiple of `10 ^ exponent` next to a double that reads back as it, if one of its two
neighbours does; of two that do, the nearer one, and the even one when they are equally near. -/
def readingBack? (units : Nat) (exponent : Int) : Option Nat :=
  let (num, den) := shifted units unitsPerOne exponent
  let low := num / den
  let rest := num % den
  let lowReads := Decimal.units low exponent = units
  let highReads := Decimal.units (low + 1) exponent = units
  if lowReads ∧ highReads then
    some (if 2 * rest < den ∨ (2 * rest = den ∧ low % 2 = 0) then low else low + 1)
  else if lowReads then some low
  else if highReads then some (low + 1)
  else none

/-- The fewest digits that read back as a positive double, as a coefficient and its exponent.
Seventeen digits are always enough; the whole decimal expansion closes the search. -/
def shortest (units : Nat) : Nat × Int :=
  let top := leadingExponent units unitsPerOne
  let candidates := (List.range 17).map fun extra : Nat => top - (extra : Int)
  (candidates.findSome? fun exponent =>
    (readingBack? units exponent).map fun coefficient => (coefficient, exponent)).getD
      (units * Nat.pow 5 1074, -1074)

/-- What the neighbour search finds reads back. -/
theorem units_of_readingBack? {units coefficient : Nat} {exponent : Int}
    (h : readingBack? units exponent = some coefficient) :
    Decimal.units coefficient exponent = units := by
  simp only [readingBack?] at h
  split at h
  · next both =>
    split at h
    · exact Option.some.inj h ▸ both.1
    · exact Option.some.inj h ▸ both.2
  · split at h
    · next low => exact Option.some.inj h ▸ low
    · split at h
      · next high => exact Option.some.inj h ▸ high
      · simp at h

end SqlGauge.Decimal
