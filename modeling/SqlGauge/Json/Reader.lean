import SqlGauge.Decimal.Basic
import SqlGauge.Failure
import SqlGauge.Json.Basic
import SqlGauge.Text.Hex

/-!
# Reading a JSON text

`Json.read` reads a whole text as one value. Beyond the standard it knows the numbers `NaN`,
`Infinity` and `-Infinity`; of fields with one key the last one counts. A text that is no JSON is
rejected with the place where reading stopped, counted in lines and columns. Arrays and objects are
read up to `levelLimit` levels deep.

Each reader returns what it has read and the rest of the text, which is shorter, so that reading
ends.
-/

namespace SqlGauge.Json

/-! ## Flaws and their places -/

/-- Why reading stopped. -/
inductive Problem where
  | byteOrderMark
  | noValue
  | noName
  | noColon
  | noComma
  | openString
  | controlCharacter
  | badEscape
  | badCodeUnit
  | extraText
deriving DecidableEq

/-- The wording of a problem. -/
def Problem.message : Problem → String
  | byteOrderMark => "Unexpected UTF-8 BOM (decode using utf-8-sig)"
  | noValue => "Expecting value"
  | noName => "Expecting property name enclosed in double quotes"
  | noColon => "Expecting ':' delimiter"
  | noComma => "Expecting ',' delimiter"
  | openString => "Unterminated string starting at"
  | controlCharacter => "Invalid control character at"
  | badEscape => "Invalid \\escape"
  | badCodeUnit => "Invalid \\uXXXX escape"
  | extraText => "Extra data"

/-- What stops a reader: a problem at the start of a rest of the text, or a value beyond a limit: an
integer that is too long, or values that are nested too deep. -/
inductive Stop where
  | problem (problem : Problem) (place : List Char)
  | refusal (refusal : Refusal)

/-- The place of a problem: how many characters precede it. The line is found by counting line
feeds, the column from the last of them. -/
def placeText (text : List Char) (offset : Nat) : String :=
  let before := text.take offset
  let column := (before.reverse.takeWhile (· ≠ '\n')).length + 1
  "line " ++ toString (before.count '\n' + 1) ++ " column " ++ toString column
    ++ " (char " ++ toString offset ++ ")"

/-- A text that is no JSON. -/
inductive Unreadable where
  | malformed (problem : Problem) (place : String)
  | refused (refusal : Refusal)
deriving DecidableEq

/-! ## Leaves -/

/-- What a reader has taken off the start of a text. -/
structure Taken (α : Type) (text : List Char) where
  value : α
  rest : List Char
  shorter : rest.length < text.length

/-- White space between the parts of a JSON text. -/
def isSpace (c : Char) : Bool :=
  c = ' ' || c = '\t' || c = '\n' || c = '\r'

/-- The text after leading white space. -/
def skipSpace (text : List Char) : List Char :=
  text.dropWhile isSpace

theorem length_skipSpace_le (text : List Char) : (skipSpace text).length ≤ text.length :=
  (List.dropWhile_suffix isSpace).length_le

/-- A UTF-16 unit written with four digits, of a text in which something follows them. -/
def codeUnit? (text : List Char) : Option Nat :=
  if text.length ≤ 4 then none else Text.hexNumber? (text.take 4)

/-- Whether a UTF-16 unit is the first of a pair. -/
def isHighUnit (unit : Nat) : Bool :=
  0xd800 ≤ unit && unit ≤ 0xdbff

/-- Whether a UTF-16 unit is the second of a pair. -/
def isLowUnit (unit : Nat) : Bool :=
  0xdc00 ≤ unit && unit ≤ 0xdfff

/-- The character of a single unit; half a pair stands for no character. -/
def unitChar (unit : Nat) : Char :=
  if unit.isValidChar then Char.ofNat unit else '\uFFFD'

/-- The character of an escape by code units, and how many characters come after the letter `u`.
Two escapes that form a pair are one character. -/
def codeUnitEscape (text : List Char) : Except Stop (Char × Nat) :=
  match codeUnit? text with
  | none => .error (.problem .badCodeUnit ('u' :: text))
  | some high =>
    match isHighUnit high, text.drop 4 with
    | true, '\\' :: 'u' :: second =>
      if second.length ≤ 4 then .ok (unitChar high, 4)
      else match codeUnit? second with
        | none => .error (.problem .badCodeUnit ('u' :: second))
        | some low =>
          if isLowUnit low then
            .ok (Char.ofNat (0x10000 + (high - 0xd800) * 0x400 + (low - 0xdc00)), 10)
          else .ok (unitChar high, 4)
    | _, _ => .ok (unitChar high, 4)

/-- The character of an escape that is a single letter. -/
def letterEscape? : Char → Option Char
  | '"' => some '"'
  | '\\' => some '\\'
  | '/' => some '/'
  | 'b' => some '\x08'
  | 'f' => some '\x0c'
  | 'n' => some '\n'
  | 'r' => some '\r'
  | 't' => some '\t'
  | _ => none

/-- Reads the characters of a string up to its closing quote. The first argument is the text from
the opening quote on, where a string that does not end is reported. -/
def stringChars (opening : List Char) :
    (text : List Char) → Except Stop (Taken (List Char) text)
  | [] => .error (.problem .openString opening)
  | '"' :: rest => .ok ⟨[], rest, by simp⟩
  | ['\\'] => .error (.problem .openString opening)
  | '\\' :: 'u' :: rest =>
    match codeUnitEscape rest with
    | .error stop => .error stop
    | .ok (c, size) =>
      match stringChars opening (rest.drop size) with
      | .error stop => .error stop
      | .ok taken => .ok ⟨c :: taken.value, taken.rest, by
          have := taken.shorter
          simp only [List.length_drop, List.length_cons] at this ⊢
          omega⟩
  | '\\' :: letter :: rest =>
    match letterEscape? letter with
    | none => .error (.problem .badEscape ('\\' :: letter :: rest))
    | some c =>
      match stringChars opening rest with
      | .error stop => .error stop
      | .ok taken => .ok ⟨c :: taken.value, taken.rest, by
          have := taken.shorter
          simp only [List.length_cons]
          omega⟩
  | c :: rest =>
    if c.toNat < 0x20 then .error (.problem .controlCharacter (c :: rest))
    else match stringChars opening rest with
      | .error stop => .error stop
      | .ok taken => .ok ⟨c :: taken.value, taken.rest, by
          have := taken.shorter
          simp only [List.length_cons]
          omega⟩
termination_by text => text.length
decreasing_by
  all_goals simp only [List.length_drop, List.length_cons]; omega

/-! ## Numbers -/

/-- The digits of the integer part at the start of a text: a zero, or digits that do not start with
one. -/
def wholeDigits : List Char → List Char
  | '0' :: _ => ['0']
  | text => text.takeWhile Char.isDigit

/-- The fraction at the start of a text, if a digit follows the point. -/
def fractionPart : List Char → List Char
  | '.' :: rest =>
    match rest.takeWhile Char.isDigit with
    | [] => []
    | digits => '.' :: digits
  | _ => []

/-- The exponent at the start of a text, if it has a digit. -/
def exponentPart : List Char → List Char
  | e :: rest =>
    if e = 'e' ∨ e = 'E' then
      let sign := match rest with
        | '-' :: _ => ['-']
        | '+' :: _ => ['+']
        | _ => []
      match (rest.drop sign.length).takeWhile Char.isDigit with
      | [] => []
      | digits => e :: sign ++ digits
    else []
  | [] => []

/-- Reads a number. Without fraction and exponent it is an integer. -/
def number (text : List Char) : Except Stop (Taken Json text) :=
  let sign := if text.head? = some '-' then ['-'] else []
  let whole := wholeDigits (text.drop sign.length)
  let fraction := fractionPart (text.drop (sign.length + whole.length))
  let exponent := exponentPart (text.drop (sign.length + whole.length + fraction.length))
  let size := sign.length + whole.length + fraction.length + exponent.length
  if h : whole = [] ∨ text = [] then .error (.problem .noValue text)
  else
    have shorter : (text.drop size).length < text.length := by
      have hwhole : 0 < whole.length := List.length_pos_iff.mpr fun e => h (Or.inl e)
      have htext : 0 < text.length := List.length_pos_iff.mpr fun e => h (Or.inr e)
      simp only [List.length_drop, size]
      omega
    if fraction = [] ∧ exponent = [] then
      if Refusal.digitLimit < whole.length then .error (.refusal (.tooManyDigits whole.length))
      else
        let value := Text.ofDigits (whole.map fun c => c.toNat - '0'.toNat)
        .ok ⟨integer (Binary64.signed (sign ≠ []) value), _, shorter⟩
    else match Decimal.read? (text.take size) with
      | some decimal => .ok ⟨real decimal.toBinary64, _, shorter⟩
      | none => .error (.problem .noValue text)

/-- The values that are written as a word. -/
def words : List (List Char × Json) :=
  [("null".toList, null), ("true".toList, bool true), ("false".toList, bool false),
    ("NaN".toList, real .nan), ("Infinity".toList, real (.infinite false)),
    ("-Infinity".toList, real (.infinite true))]

/-- Reads a word or a number. -/
def leaf (text : List Char) : Except Stop (Taken Json text) :=
  match h : words.find? fun word => word.1.isPrefixOf text && !word.1.isEmpty with
  | some word => .ok ⟨word.2, text.drop word.1.length, by
      have hword := List.find?_some h
      simp only [Bool.and_eq_true, Bool.not_eq_true', List.isEmpty_eq_false_iff] at hword
      have hpos := List.length_pos_iff.mpr hword.2
      have hle := (List.isPrefixOf_iff_prefix.mp hword.1).length_le
      simp only [List.length_drop]
      omega⟩
  | none => number text

/-! ## Values -/

/-- How many levels of arrays and objects a value may have. -/
def levelLimit : Nat := 990

mutual

/-- Reads a value with so many levels at most. -/
def value (levels : Nat) (text : List Char) : Except Stop (Taken Json text) :=
  match text with
  | '"' :: rest =>
    match stringChars ('"' :: rest) rest with
    | .error stop => .error stop
    | .ok taken => .ok ⟨string (String.ofList taken.value), taken.rest, by
        have := taken.shorter
        simp only [List.length_cons]
        omega⟩
  | '[' :: rest =>
    match levels with
    | 0 => .error (.refusal (.tooDeep .array))
    | inner + 1 =>
      match hrest : skipSpace rest with
      | ']' :: after => .ok ⟨array [], after, by
          have := length_skipSpace_le rest
          rw [hrest] at this
          simp only [List.length_cons] at this ⊢
          omega⟩
      | first =>
        match items inner first with
        | .error stop => .error stop
        | .ok taken => .ok ⟨array taken.value, taken.rest, by
            have := taken.shorter
            have := length_skipSpace_le rest
            rw [hrest] at this
            simp only [List.length_cons]
            omega⟩
  | '\x7b' :: rest =>
    match levels with
    | 0 => .error (.refusal (.tooDeep .object))
    | inner + 1 =>
      match hrest : skipSpace rest with
      | '\x7d' :: after => .ok ⟨object [], after, by
          have := length_skipSpace_le rest
          rw [hrest] at this
          simp only [List.length_cons] at this ⊢
          omega⟩
      | first =>
        match fields inner [] first with
        | .error stop => .error stop
        | .ok taken => .ok ⟨object taken.value, taken.rest, by
            have := taken.shorter
            have := length_skipSpace_le rest
            rw [hrest] at this
            simp only [List.length_cons]
            omega⟩
  | other => leaf other
termination_by 2 * text.length
decreasing_by
  all_goals
    have := length_skipSpace_le rest
    rw [hrest] at this
    simp only [List.length_cons]
    omega

/-- Reads the items of an array, each with so many levels at most, from the first one to the closing
bracket. -/
def items (levels : Nat) (text : List Char) : Except Stop (Taken (List Json) text) :=
  match value levels text with
  | .error stop => .error stop
  | .ok first =>
    match hrest : skipSpace first.rest with
    | ']' :: after => .ok ⟨[first.value], after, by
        have := first.shorter
        have := length_skipSpace_le first.rest
        rw [hrest] at this
        simp only [List.length_cons] at this
        omega⟩
    | ',' :: after =>
      match items levels (skipSpace after) with
      | .error stop => .error stop
      | .ok others => .ok ⟨first.value :: others.value, others.rest, by
          have := first.shorter
          have := others.shorter
          have := length_skipSpace_le after
          have := length_skipSpace_le first.rest
          rw [hrest] at this
          simp only [List.length_cons] at this
          omega⟩
    | place => .error (.problem .noComma place)
termination_by 2 * text.length + 1
decreasing_by
  · exact Nat.lt_succ_self _
  · have := first.shorter
    have := length_skipSpace_le after
    have := length_skipSpace_le first.rest
    rw [hrest] at this
    simp only [List.length_cons] at this
    omega

/-- Reads the fields of an object, their values with so many levels at most, from the first one to the
closing brace, given the fields before it. -/
def fields (levels : Nat) (before : List (String × Json)) (text : List Char) :
    Except Stop (Taken (List (String × Json)) text) :=
  match text with
  | '"' :: afterQuote =>
    match stringChars ('"' :: afterQuote) afterQuote with
    | .error stop => .error stop
    | .ok name =>
      match hcolon : skipSpace name.rest with
      | ':' :: afterColon =>
        match value levels (skipSpace afterColon) with
        | .error stop => .error stop
        | .ok first =>
          let known := putField (String.ofList name.value) first.value before
          match hrest : skipSpace first.rest with
          | '\x7d' :: after => .ok ⟨known, after, by
              have := name.shorter
              have := first.shorter
              have := length_skipSpace_le afterColon
              have h1 := length_skipSpace_le name.rest
              rw [hcolon] at h1
              have h2 := length_skipSpace_le first.rest
              rw [hrest] at h2
              simp only [List.length_cons] at h1 h2 ⊢
              omega⟩
          | ',' :: after =>
            match fields levels known (skipSpace after) with
            | .error stop => .error stop
            | .ok others => .ok ⟨others.value, others.rest, by
                have := name.shorter
                have := first.shorter
                have := others.shorter
                have := length_skipSpace_le after
                have := length_skipSpace_le afterColon
                have h1 := length_skipSpace_le name.rest
                rw [hcolon] at h1
                have h2 := length_skipSpace_le first.rest
                rw [hrest] at h2
                simp only [List.length_cons] at h1 h2 ⊢
                omega⟩
          | place => .error (.problem .noComma place)
      | place => .error (.problem .noColon place)
  | place => .error (.problem .noName place)
termination_by 2 * text.length + 1
decreasing_by
  · have := name.shorter
    have := length_skipSpace_le afterColon
    have h1 := length_skipSpace_le name.rest
    rw [hcolon] at h1
    simp only [List.length_cons] at h1 ⊢
    omega
  · have := name.shorter
    have := first.shorter
    have := length_skipSpace_le after
    have := length_skipSpace_le afterColon
    have h1 := length_skipSpace_le name.rest
    rw [hcolon] at h1
    have h2 := length_skipSpace_le first.rest
    rw [hrest] at h2
    simp only [List.length_cons] at h1 h2 ⊢
    omega

end

/-! ## Texts -/

/-- Reads a value and makes sure that nothing but white space follows it. -/
def document (text : List Char) : Except Stop Json :=
  if text.head? = some '\uFEFF' then .error (.problem .byteOrderMark text)
  else match value levelLimit (skipSpace text) with
    | .error stop => .error stop
    | .ok taken =>
      match skipSpace taken.rest with
      | [] => .ok taken.value
      | place => .error (.problem .extraText place)

/-- Reads a JSON text. -/
def read (source : String) : Except Unreadable Json :=
  let text := source.toList
  match document text with
  | .ok result => .ok result
  | .error (.refusal refusal) => .error (.refused refusal)
  | .error (.problem problem place) =>
    .error (.malformed problem (placeText text (text.length - place.length)))

end SqlGauge.Json
