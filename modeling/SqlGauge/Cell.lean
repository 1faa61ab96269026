import SqlGauge.Decimal.Text
import SqlGauge.Failure
import SqlGauge.Text.Utf8

/-!
# Cells of a row

A database driver hands over a cell as a null, a text, bytes, a number or a truth value.
`Cell.text?` turns it into a text, which is what a measurement is read from; only an integer with
too many digits has none. A null stays a null.
-/

namespace SqlGauge

/-- A cell as a database driver hands it over. -/
inductive Cell where
  | null
  | text (value : String)
  | bytes (value : List UInt8)
  | integer (value : Int)
  | real (value : Binary64)
  | truth (value : Bool)
deriving DecidableEq

/-- A row of texts. -/
abbrev Row := List (Option String)

namespace Cell

/-- The text of an integer, if it does not have too many digits. -/
def integerText (value : Int) : Except Refusal String :=
  if (Nat.toDigits 10 value.natAbs).length ≤ Refusal.digitLimit then .ok (toString value)
  else .error .tooLongToWrite

/-- A cell as a text. Bytes are read as UTF-8, and what is malformed is replaced. -/
def text? : Cell → Except Refusal (Option String)
  | null => .ok none
  | text value => .ok (some value)
  | bytes value => .ok (some (String.ofList (Text.Utf8.decode value)))
  | integer value => (integerText value).map some
  | real value => .ok (some value.shortText)
  | truth true => .ok (some "True")
  | truth false => .ok (some "False")

/-- A row of cells as a row of texts. -/
def rowText : List Cell → Except Refusal Row
  | [] => .ok []
  | cell :: rest => do
    let first ← cell.text?
    return first :: (← rowText rest)

/-- A row of nulls and texts as cells. -/
def ofRow (row : Row) : List Cell :=
  row.map fun
    | none => null
    | some value => text value

/-- Nulls and texts are their own texts. -/
theorem rowText_ofRow (row : Row) : rowText (ofRow row) = .ok row := by
  induction row with
  | nil => rfl
  | cons cell rest ih =>
    have ih' : rowText (List.map (fun | none => null | some value => text value) rest) = .ok rest :=
      ih
    cases cell <;> simp [ofRow, rowText, text?, ih', bind, Except.bind, pure, Except.pure]

end Cell

end SqlGauge
