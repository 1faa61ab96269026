/-!
# Decimal digits of every script

A number may be written in the digits of any script: `digitValue?` gives the value of a decimal
digit, and `none` for every other character. `spanDigits` takes the digits a text starts with.
-/

namespace SqlGauge.Text

/-- The zero of each run of ten decimal digits, general category `Nd`, in Unicode 14. The digits
one to nine follow their zero. -/
def digitZeros : List Nat := [
  0x30, 0x660, 0x6f0, 0x7c0, 0x966, 0x9e6, 0xa66, 0xae6, 0xb66, 0xbe6, 0xc66, 0xce6, 0xd66,
  0xde6, 0xe50, 0xed0, 0xf20, 0x1040, 0x1090, 0x17e0, 0x1810, 0x1946, 0x19d0, 0x1a80, 0x1a90,
  0x1b50, 0x1bb0, 0x1c40, 0x1c50, 0xa620, 0xa8d0, 0xa900, 0xa9d0, 0xa9f0, 0xaa50, 0xabf0, 0xff10,
  0x104a0, 0x10d30, 0x11066, 0x110f0, 0x11136, 0x111d0, 0x112f0, 0x11450, 0x114d0, 0x11650,
  0x116c0, 0x11730, 0x118e0, 0x11950, 0x11c50, 0x11d50, 0x11da0, 0x16a60, 0x16ac0, 0x16b50,
  0x1d7ce, 0x1d7d8, 0x1d7e2, 0x1d7ec, 0x1d7f6, 0x1e140, 0x1e2f0, 0x1e950, 0x1fbf0]

/-- The value of a decimal digit. -/
def digitValue? (c : Char) : Option Nat :=
  if 0x30 ≤ c.toNat ∧ c.toNat ≤ 0x39 then
    some (c.toNat - 0x30)
  else
    (digitZeros.find? fun first => first ≤ c.toNat && c.toNat ≤ first + 9).map (c.toNat - ·)

/-- The values of the digits at the start of a text, and the rest of the text. -/
def spanDigits : List Char → List Nat × List Char
  | [] => ([], [])
  | c :: rest =>
    match digitValue? c with
    | some value => (value :: (spanDigits rest).1, (spanDigits rest).2)
    | none => ([], c :: rest)

/-- The number that a run of digits stands for, most significant digit first. -/
def ofDigits (digits : List Nat) : Nat :=
  digits.foldl (fun number digit => 10 * number + digit) 0

theorem spanDigits_of_digit {c : Char} {value : Nat} (rest : List Char)
    (h : digitValue? c = some value) :
    spanDigits (c :: rest) = (value :: (spanDigits rest).1, (spanDigits rest).2) := by
  simp [spanDigits, h]

theorem spanDigits_of_not_digit {c : Char} (rest : List Char) (h : digitValue? c = none) :
    spanDigits (c :: rest) = ([], c :: rest) := by
  simp [spanDigits, h]

end SqlGauge.Text
