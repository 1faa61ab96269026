import SqlGauge.Decimal.Shortest

/-!
# Written forms of a double

A double is written in three forms: `shortText`, the fewest digits that read back as it;
`generalText`, six significant digits without trailing zeros; and `fixedText`, six places after the
point. The first two share one layout, positional for exponents of ten from -4 up to a limit and
with an exponent mark elsewhere, and differ in a `Style`.
-/

namespace SqlGauge.Decimal

/-- What the written forms leave open. -/
structure Style where
  /-- The least exponent of ten that is not written positionally any more. -/
  positionalLimit : Int
  /-- What follows a whole number written positionally. -/
  wholeMark : List Char

/-- The layout of the shortest digits: a whole number keeps a fraction of one zero. -/
def shortStyle : Style := ⟨16, ['.', '0']⟩

/-- The layout of six significant digits. -/
def generalStyle : Style := ⟨6, []⟩

/-- The significant digits of a coefficient, without trailing zeros. -/
def trimmedDigits (coefficient : Nat) : List Char :=
  ((Nat.toDigits 10 coefficient).reverse.dropWhile (· = '0')).reverse

/-- The exponent mark: a sign and at least two digits. -/
def exponentMark (exponent : Int) : List Char :=
  let digits := Nat.toDigits 10 exponent.natAbs
  'e' :: (if exponent < 0 then '-' else '+') :: (if digits.length < 2 then '0' :: digits else digits)

/-- Digits in scientific form: the first one, a fraction of the others, and the exponent mark. -/
def scientific (digits : List Char) (exponent : Int) : List Char :=
  match digits with
  | [] => ['0']
  | [digit] => digit :: exponentMark exponent
  | digit :: fraction => digit :: '.' :: fraction ++ exponentMark exponent

/-- Digits in positional form, the first one standing for `10 ^ exponent`. -/
def positional (wholeMark digits : List Char) : Int → List Char
  | .negSucc before => '0' :: '.' :: List.replicate before '0' ++ digits
  | .ofNat before =>
    if digits.length ≤ before + 1 then
      digits ++ List.replicate (before + 1 - digits.length) '0' ++ wholeMark
    else
      digits.take (before + 1) ++ '.' :: digits.drop (before + 1)

/-- The text of the positive number `coefficient × 10 ^ exponent`. -/
def layout (style : Style) (coefficient : Nat) (exponent : Int) : List Char :=
  let first := exponent + (Nat.toDigits 10 coefficient).length - 1
  let digits := trimmedDigits coefficient
  if -4 ≤ first ∧ first < style.positionalLimit then positional style.wholeMark digits first
  else scientific digits first

end SqlGauge.Decimal

namespace SqlGauge.Binary64

open Decimal

/-- The sign in front of a written number; zero has one too. -/
def signText (negative : Bool) : List Char :=
  if negative then ['-'] else []

/-- The text of a number, given the text of its magnitude. -/
def write (magnitude : Nat → List Char) : Binary64 → String
  | nan => "nan"
  | infinite negative => String.ofList (signText negative ++ ['i', 'n', 'f'])
  | finite negative m => String.ofList (signText negative ++ magnitude m.units)

/-- The fewest digits that read back as the number. -/
def shortText : Binary64 → String :=
  write fun units =>
    if units = 0 then '0' :: shortStyle.wholeMark
    else layout shortStyle (shortest units).1 (shortest units).2

/-- Six significant digits, trailing zeros left out. -/
def generalText : Binary64 → String :=
  write fun units =>
    if units = 0 then '0' :: generalStyle.wholeMark
    else
      let (coefficient, exponent) := significant 6 units unitsPerOne
      layout generalStyle coefficient exponent

/-- Six places after the point, a tie going to the even last digit. -/
def fixedText : Binary64 → String :=
  write fun units =>
    let millionths := roundHalfEven (units * Nat.pow 10 6) unitsPerOne
    let fraction := Nat.toDigits 10 (millionths % Nat.pow 10 6)
    Nat.toDigits 10 (millionths / Nat.pow 10 6) ++
      '.' :: List.replicate (6 - fraction.length) '0' ++ fraction

end SqlGauge.Binary64
