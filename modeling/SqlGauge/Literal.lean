import SqlGauge.Text.Hex
import SqlGauge.Text.Utf8

/-!
# Quoted literals

A value kept in a document field may come as a quoted literal. `Literal.read` takes one layer of
quotes off: text between double quotes, one character between apostrophes, or raw text between
backquotes. In the first two a backslash starts an escape, which stands for a character or for a
single byte; the bytes are read as UTF-8 once all of them are there.
-/

namespace SqlGauge.Literal

/-! ## Flaws -/

/-- Why a text is no literal. -/
inductive Flaw where
  /-- The text is not between two equal quotes. -/
  | notQuoted
  | backquoteInside
  | lineFeed
  | bareQuote
  | trailingBackslash
  | unknownEscape (letter : Char)
  | badHex
  | badCodePoint (letter : Char) (digits : List Char)
  | badOctal
  | octalTooLarge
  | notOneCharacter
deriving DecidableEq

/-- The wording of a flaw. -/
def Flaw.message : Flaw → String
  | notQuoted => "invalid syntax"
  | backquoteInside => "unexpected backquote"
  | lineFeed => "newline in quoted string"
  | bareQuote => "unescaped quote"
  | trailingBackslash => "trailing backslash"
  | unknownEscape letter => "invalid escape \\" ++ String.singleton letter
  | badHex => "invalid hex escape"
  | badCodePoint letter digits =>
    "invalid code point \\" ++ String.ofList (letter :: digits)
  | badOctal => "invalid octal escape"
  | octalTooLarge => "octal escape out of range"
  | notOneCharacter => "single-quoted literal must hold exactly one character"

/-! ## Escapes -/

/-- The quote around raw text. -/
def backquote : Char := '\x60'

/-- The byte of an escape that is a single letter. -/
def letterEscape? : Char → Option UInt8
  | 'a' => some 0x07
  | 'b' => some 0x08
  | 'f' => some 0x0c
  | 'n' => some 0x0a
  | 'r' => some 0x0d
  | 't' => some 0x09
  | 'v' => some 0x0b
  | '\\' => some 0x5c
  | _ => none

/-- The number of hexadecimal digits after an escape letter that takes some. -/
def hexLength? : Char → Option Nat
  | 'x' => some 2
  | 'u' => some 4
  | 'U' => some 8
  | _ => none

/-- Whether the character is an octal digit. -/
def isOctal (c : Char) : Bool :=
  '0' ≤ c && c ≤ '7'

/-- The bytes of a hexadecimal escape: one raw byte after `x`, the UTF-8 form of a code point after
`u` and `U`. -/
def hexBytes (letter : Char) (size : Nat) (digits : List Char) : Except Flaw (List UInt8) :=
  if digits.length ≠ size then .error .badHex
  else match Text.hexNumber? digits with
    | none => .error .badHex
    | some code =>
      if letter = 'x' then .ok [UInt8.ofNat code]
      else if code.isValidChar then .ok (String.utf8EncodeChar (Char.ofNat code))
      else .error (.badCodePoint letter digits)

/-- The byte of an octal escape of three digits. -/
def octalByte (digits : List Char) : Except Flaw (List UInt8) :=
  if digits.length ≠ 3 ∨ !digits.all isOctal then .error .badOctal
  else
    let value := digits.foldl (fun number c => 8 * number + (c.toNat - '0'.toNat)) 0
    if 255 < value then .error .octalTooLarge else .ok [UInt8.ofNat value]

/-- The bytes of the escape that a text after a backslash starts with, and the number of characters
it takes. Of the two quotes only the one around the literal may be escaped. -/
def escape (quote : Char) : List Char → Except Flaw (List UInt8 × Nat)
  | [] => .error .trailingBackslash
  | letter :: rest =>
    match letterEscape? letter, hexLength? letter with
    | some byte, _ => .ok ([byte], 1)
    | none, some size =>
      (hexBytes letter size (rest.take size)).map fun bytes => (bytes, size + 1)
    | none, none =>
      if letter = quote then .ok (String.utf8EncodeChar letter, 1)
      else if isOctal letter then
        (octalByte (letter :: rest.take 2)).map fun bytes => (bytes, 3)
      else .error (.unknownEscape letter)

/-- The size a reader pairs with its bytes is the size of its result. -/
private theorem pos_of_map_eq_ok {result : Except Flaw (List UInt8)} {bytes : List UInt8}
    {size width : Nat} (hwidth : 0 < width)
    (h : (result.map fun read => (read, width)) = .ok (bytes, size)) : 0 < size := by
  cases result with
  | error flaw => simp [Except.map] at h
  | ok read =>
    simp only [Except.map, Except.ok.injEq, Prod.mk.injEq] at h
    exact h.2 ▸ hwidth

/-- An escape takes at least its letter. -/
theorem escape_pos {quote : Char} {text : List Char} {bytes : List UInt8} {size : Nat}
    (h : escape quote text = .ok (bytes, size)) : 0 < size ∧ text ≠ [] := by
  cases text with
  | nil => simp [escape] at h
  | cons letter rest =>
    refine ⟨?_, List.cons_ne_nil _ _⟩
    simp only [escape] at h
    split at h
    · cases h; decide
    · exact pos_of_map_eq_ok (Nat.succ_pos _) h
    · split at h
      · cases h; decide
      · split at h
        · exact pos_of_map_eq_ok (by decide) h
        · simp at h

/-! ## Reading -/

/-- The bytes that the text between two quotes stands for. -/
def bodyBytes (quote : Char) : List Char → Except Flaw (List UInt8)
  | [] => .ok []
  | c :: rest =>
    if c = quote then .error .bareQuote
    else if c ≠ '\\' then
      (bodyBytes quote rest).map (String.utf8EncodeChar c ++ ·)
    else match _h : escape quote rest with
      | .error flaw => .error flaw
      | .ok (bytes, size) => (bodyBytes quote (rest.drop size)).map (bytes ++ ·)
termination_by text => text.length
decreasing_by
  · simp
  · have := escape_pos _h
    simp only [List.length_drop, List.length_cons]
    omega

/-- Reads the text between two quotes. -/
def readBody (quote : Char) (body : List Char) : Except Flaw (List Char) :=
  if quote = backquote then
    if body.contains backquote then .error .backquoteInside
    else .ok (body.filter (· ≠ '\r'))
  else if body.contains '\n' then .error .lineFeed
  else match bodyBytes quote body with
    | .error flaw => .error flaw
    | .ok bytes =>
      let text := Text.Utf8.decode bytes
      if quote = '\'' ∧ text.length ≠ 1 then .error .notOneCharacter else .ok text

/-- Whether the character may open a literal. -/
def isQuote (c : Char) : Bool :=
  c = '"' || c = '\'' || c = backquote

/-- The text that a literal stands for. -/
def read (literal : String) : Except Flaw String :=
  match literal.toList with
  | [] => .error .notQuoted
  | quote :: rest =>
    if isQuote quote ∧ rest.getLast? = some quote then
      (readBody quote rest.dropLast).map String.ofList
    else .error .notQuoted

end SqlGauge.Literal
