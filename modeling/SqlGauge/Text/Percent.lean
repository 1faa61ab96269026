import SqlGauge.Text.Hex
import SqlGauge.Text.Utf8

/-!
# Percent encoding

Inside an address a byte may be written as a percent sign and two hexadecimal digits. `unescape`
reads such a text, `escape` writes one, and a query part writes a space as a plus sign.
-/

namespace SqlGauge.Text.Percent

/-- The bytes of a text in which each percent sign with two hexadecimal digits after it is one
byte. Any other percent sign stands for itself. -/
def bytes : List Char → List UInt8
  | [] => []
  | '%' :: high :: low :: rest =>
    match hexValue? high, hexValue? low with
    | some h, some l => UInt8.ofNat (16 * h + l) :: bytes rest
    | _, _ => String.utf8EncodeChar '%' ++ bytes (high :: low :: rest)
  | c :: rest => String.utf8EncodeChar c ++ bytes rest

/-- Reads a percent-encoded text. -/
def unescape (text : List Char) : List Char :=
  Utf8.decode (bytes text)

/-- The characters that never need an escape. -/
def isUnreserved (c : Char) : Bool :=
  c.isAlphanum || c = '_' || c = '.' || c = '-' || c = '~'

/-- A byte as a percent sign and two upper-case digits. -/
def escapeByte (byte : UInt8) : List Char :=
  '%' :: hexDigits upperHexDigit 2 byte.toNat

/-- Writes every character that is neither unreserved nor among `kept` as the escapes of its
bytes. -/
def escape (kept : List Char) (text : List Char) : List Char :=
  text.flatMap fun c =>
    if isUnreserved c || kept.contains c then [c]
    else (String.utf8EncodeChar c).flatMap escapeByte

/-- Reads a name or a value of a query part. -/
def unescapeQuery (text : List Char) : List Char :=
  unescape (text.map fun c => if c = '+' then ' ' else c)

/-- Writes a name or a value of a query part. -/
def escapeQuery (text : List Char) : List Char :=
  (escape [' '] text).map fun c => if c = ' ' then '+' else c

end SqlGauge.Text.Percent
