import SqlGauge.Text.Hex
import SqlGauge.Text.Printable

/-!
# Texts quoted inside messages

Messages quote the text they are about: `quoted` puts it between apostrophes, or between double
quotes when it holds an apostrophe and no double quote, and escapes the backslash, the chosen
quote and all that does not print. A quoted text therefore never holds a line feed.
-/

namespace SqlGauge.Text

/-- The quote a text is put between. -/
def quoteMark (text : List Char) : Char :=
  if text.contains '\'' && !text.contains '"' then '"' else '\''

/-- A character as it stands between two marks. What does not print is written with two, four or
eight hexadecimal digits, the fewest that hold its code point. -/
def escapeChar (mark c : Char) : List Char :=
  if c = mark ∨ c = '\\' then ['\\', c]
  else if c = '\n' then ['\\', 'n']
  else if c = '\r' then ['\\', 'r']
  else if c = '\t' then ['\\', 't']
  else if isPrintable c then [c]
  else if c.toNat < 0x100 then '\\' :: 'x' :: hexDigits lowerHexDigit 2 c.toNat
  else if c.toNat < 0x10000 then '\\' :: 'u' :: hexDigits lowerHexDigit 4 c.toNat
  else '\\' :: 'U' :: hexDigits lowerHexDigit 8 c.toNat

/-- The characters of a quoted text, quotes included. -/
def quotedChars (text : List Char) : List Char :=
  let mark := quoteMark text
  mark :: text.flatMap (escapeChar mark) ++ [mark]

/-- A text in quotes. -/
def quoted (text : String) : String :=
  String.ofList (quotedChars text.toList)

/-- A list as messages show it: its items between brackets, with a comma and a space between
two. -/
def bracketed (items : List String) : String :=
  "[" ++ String.intercalate ", " items ++ "]"

/-- A list of texts, each of them quoted. -/
def quotedList (items : List String) : String :=
  bracketed (items.map quoted)

end SqlGauge.Text
