import SqlGauge.Decimal.Basic
import SqlGauge.Failure
import SqlGauge.Literal

/-!
# Reading a measurement

A cell of a result holds a measurement when its text is a decimal numeral or a word for infinity or
for what is not a number, with nothing before or after it. `Measurement.read` is strict: neither
blanks nor underscores are allowed. `Measurement.ofCell` takes a layer of quotes off first, if it
is told to.

The words are recognised in any case, and there the dotless and the dotted capital `i` count as the
letter `i`. A word spelled with one of them is then refused by the conversion to a number, which
knows the plain letter only.
-/

namespace SqlGauge.Measurement

/-- Whether a character counts as a lower-case letter of a word. -/
def isLetter (letter c : Char) : Bool :=
  c.toLower = letter || (letter = 'i' && (c = '\u0131' || c = '\u0130'))

/-- Whether a text spells a word. -/
def spells : List Char → List Char → Bool
  | [], [] => true
  | letter :: word, c :: text => isLetter letter c && spells word text
  | _, _ => false

/-- The number that a word stands for. -/
def word? (negative : Bool) (text : List Char) : Option Binary64 :=
  if spells "inf".toList text || spells "infinity".toList text then some (.infinite negative)
  else if spells "nan".toList text then some .nan
  else none

/-- The failure to find a number in a cell. -/
def notANumber (text : Option String) : Trouble :=
  .failure { cause := .notANumber text }

/-- Reads the text of a cell as a number; a null is none. -/
def read : Option String → Except Trouble Binary64
  | none => .error (notANumber none)
  | some text =>
    let (negative, body) := takeSign text.toList
    match word? negative body, Decimal.read? text.toList with
    | some value, _ =>
      if body.all fun c => c.toNat < 0x80 then .ok value
      else .error (.refusal (.notAFloat text))
    | none, some decimal => .ok decimal.toBinary64
    | none, none => .error (notANumber (some text))

/-- Reads the text of a cell, as a quoted literal if `unquote` is set. -/
def ofCell (unquote : Bool) : Option String → Except Trouble Binary64
  | none => read none
  | some text =>
    if unquote then
      match Literal.read text with
      | .ok inner => read (some inner)
      | .error flaw => .error (.failure { cause := .notQuoted text flaw.message })
    else read (some text)

end SqlGauge.Measurement
