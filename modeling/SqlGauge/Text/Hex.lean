/-!
# Hexadecimal digits

`hexValue?` reads one digit of either case, `hexNumber?` a whole run of digits, and `hexDigits`
writes a number with a fixed number of digits.
-/

namespace SqlGauge.Text

/-- The value of a hexadecimal digit of the ASCII range. -/
def hexValue? (c : Char) : Option Nat :=
  if '0' ≤ c ∧ c ≤ '9' then some (c.toNat - '0'.toNat)
  else if 'a' ≤ c ∧ c ≤ 'f' then some (c.toNat - 'a'.toNat + 10)
  else if 'A' ≤ c ∧ c ≤ 'F' then some (c.toNat - 'A'.toNat + 10)
  else none

/-- The number that a run of hexadecimal digits stands for. -/
def hexNumber? (digits : List Char) : Option Nat :=
  (digits.mapM hexValue?).map fun values => values.foldl (fun number value => 16 * number + value) 0

/-- The lower-case digit of a value below 16. -/
def lowerHexDigit (value : Nat) : Char :=
  if value < 10 then Char.ofNat ('0'.toNat + value) else Char.ofNat ('a'.toNat + (value - 10))

/-- The upper-case digit of a value below 16. -/
def upperHexDigit (value : Nat) : Char :=
  if value < 10 then Char.ofNat ('0'.toNat + value) else Char.ofNat ('A'.toNat + (value - 10))

/-- The last `width` hexadecimal digits of a number, with leading zeros. -/
def hexDigits (digit : Nat → Char) : Nat → Nat → List Char
  | 0, _ => []
  | width + 1, number => hexDigits digit width (number / 16) ++ [digit (number % 16)]

/-- Both digit alphabets are read back. -/
theorem hexValue?_digit :
    ∀ value < 16, hexValue? (lowerHexDigit value) = some value ∧
      hexValue? (upperHexDigit value) = some value := by
  decide

end SqlGauge.Text
