import SqlGauge.Decimal.Basic
import SqlGauge.Failure
import SqlGauge.Text.Blank

/-!
# Numbers written by people

Flags, environment variables and annotations may write a number with blanks around it and with
single underscores between its digits. `Lenient.integer` and `Lenient.real` read such numbers; the
second also reads the words for infinity and for what is not a number. An integer may have at most
4300 digits.
-/

namespace SqlGauge.Lenient

/-- Whether each underscore has a digit before and after it. The flag tells whether the character
before the text is a digit. -/
def isGrouped : Bool → List Char → Bool
  | _, [] => true
  | afterDigit, '_' :: rest =>
    afterDigit && (rest.head?.bind Text.digitValue?).isSome && isGrouped false rest
  | _, c :: rest => isGrouped (Text.digitValue? c).isSome rest

/-- Reads an integer that is the whole text. Digits beyond the limit are refused even when
something else follows them. -/
def integer (text : String) : Except Refusal Int :=
  let (negative, body) := takeSign (Text.trimBy Text.isNumberBlank text.toList)
  let isPart := fun c => c = '_' || (Text.digitValue? c).isSome
  let run := body.takeWhile isPart
  let digits := run.filterMap Text.digitValue?
  if run = [] ∨ !isGrouped false run then .error (.notAnInteger text)
  else if Refusal.digitLimit < digits.length then .error (.tooManyDigits digits.length)
  else if body.dropWhile isPart ≠ [] then .error (.notAnInteger text)
  else .ok (Binary64.signed negative (Text.ofDigits digits))

/-- The words for a number that is no decimal, in any case. -/
def word? (negative : Bool) (text : List Char) : Option Binary64 :=
  let word := String.ofList (text.map Char.toLower)
  if word = "inf" ∨ word = "infinity" then some (.infinite negative)
  else if word = "nan" then some .nan
  else none

/-- Reads a number that is the whole text. -/
def real (text : String) : Except Refusal Binary64 :=
  let body := Text.trimBy Text.isNumberBlank text.toList
  if !isGrouped false body then .error (.notAFloat text)
  else
    let plain := body.filter (· ≠ '_')
    let (negative, unsigned) := takeSign plain
    match word? negative unsigned, Decimal.read? plain with
    | some value, _ => .ok value
    | none, some decimal => .ok decimal.toBinary64
    | none, none => .error (.notAFloat text)

end SqlGauge.Lenient
