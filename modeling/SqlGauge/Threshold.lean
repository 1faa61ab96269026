import SqlGauge.Decimal.Text
import SqlGauge.Failure

/-!
# Alert thresholds

A threshold says which measurements raise an alert. It is written as a range of numbers, bounds
included: `10` stands for `0:10`, `10:` has no upper and `~:10` no lower bound, and `:10` is the
same as `~:10`. Measurements outside the range raise an alert; after an `@` those inside do. No
text at all is no threshold, and then nothing raises an alert.

`Threshold.read` reads one, `Range.rebuilt` writes a range anew from its bounds.
-/

namespace SqlGauge

/-- A range with its alert side, and the text it was written as, if it was. -/
structure Range where
  inverted : Bool
  lower : Binary64
  upper : Binary64
  spec : String := ""
deriving DecidableEq

/-- No threshold, or a range. -/
inductive Threshold where
  | unset
  | range (range : Range)
deriving DecidableEq

/-! ## Judging a measurement -/

namespace Range

/-- Whether a number lies between the bounds. What is not a number never does. -/
def contains (range : Range) (value : Binary64) : Bool :=
  range.lower.le value && value.le range.upper

/-- Whether a number raises an alert. -/
def alerts (range : Range) (value : Binary64) : Bool :=
  if range.inverted then range.contains value else !range.contains value

/-- A bound as text. An infinite bound is left out, below it is marked. -/
def boundText : Binary64 → String
  | .infinite true => "~"
  | .infinite false => ""
  | bound => bound.generalText

/-- The range written from its bounds. A lower bound of zero is left out where a single number
stands for the range. -/
def rebuilt (range : Range) : String :=
  let mark := if range.inverted then "@" else ""
  if range.lower.equals (.zero false) && !range.upper.isInfinite then
    mark ++ boundText range.upper
  else mark ++ boundText range.lower ++ ":" ++ boundText range.upper

/-- The text of a range: as it was written, or else rebuilt. -/
def text (range : Range) : String :=
  if range.spec = "" then range.rebuilt else range.spec

/-- Whether two ranges have the same side and equal bounds; how they were written does not
count. -/
def same (a b : Range) : Bool :=
  a.inverted == b.inverted && a.lower.equals b.lower && a.upper.equals b.upper

theorem alerts_invert (range : Range) (value : Binary64) :
    { range with inverted := !range.inverted }.alerts value = !range.alerts value := by
  cases h : range.inverted <;> simp [alerts, contains, h]

/-- What is not a number is outside every range. -/
theorem contains_nan (range : Range) : range.contains .nan = false := by
  simp [contains]

end Range

namespace Threshold

/-- Whether a number raises an alert. -/
def alerts : Threshold → Binary64 → Bool
  | unset, _ => false
  | range r, value => r.alerts value

/-- The text of a threshold. -/
def text : Threshold → String
  | unset => ""
  | range r => r.text

/-- How the absence of a threshold is described. -/
def unsetDescription : String := "NO_THRESHOLD"

/-- Whether two thresholds are the same, apart from how they were written. -/
def same : Threshold → Threshold → Bool
  | unset, unset => true
  | range a, range b => a.same b
  | _, _ => false

/-! ## Reading -/

/-- Why a text is no threshold. -/
inductive Flaw where
  | tooManySeparators
  | noBounds
  | noRange
  | notANumber (token : List Char)
  | reversed
deriving DecidableEq

/-- The wording of a flaw. -/
def Flaw.message : Flaw → String
  | tooManySeparators => "too many range separators"
  | noBounds => "range has no bounds"
  | noRange => "missing range"
  | notANumber token => "invalid number " ++ Text.quoted (String.ofList token) ++ " in threshold"
  | reversed => "start of range is greater than end"

/-- A flaw as the failure to read a threshold. -/
def Flaw.failure (flaw : Flaw) (spec : String) : Failure :=
  { cause := .threshold flaw.message spec }

/-- Reads a bound that is written as a number. -/
def readBound (token : List Char) : Except Flaw Binary64 :=
  match Decimal.read? token with
  | some decimal => .ok decimal.toBinary64
  | none => .error (.notANumber token)

/-- The bounds of a range written without its mark. The lower bound is read first. -/
def readBounds (body : List Char) : Except Flaw (Binary64 × Binary64) :=
  if 1 < body.count ':' then .error .tooManySeparators
  else if body.contains ':' then
    let start := body.takeWhile (· ≠ ':')
    let stop := (body.dropWhile (· ≠ ':')).drop 1
    if start = [] ∧ stop = [] then .error .noBounds
    else do
      let lower ← if start = [] ∨ start = ['~'] then .ok (.infinite true) else readBound start
      let upper ← if stop = [] then .ok (.infinite false) else readBound stop
      return (lower, upper)
  else if body = [] then .error .noRange
  else do
    let upper ← readBound body
    return (.zero false, upper)

/-- Reads a threshold. -/
def read (spec : String) : Except Flaw Threshold :=
  if spec = "" then .ok unset
  else do
    let inverted := spec.toList.head? = some '@'
    let (lower, upper) ← readBounds (if inverted then spec.toList.drop 1 else spec.toList)
    if upper.lt lower then .error .reversed
    else return range { inverted, lower, upper, spec }

end Threshold

end SqlGauge
