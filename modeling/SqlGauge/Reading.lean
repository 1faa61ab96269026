import SqlGauge.Cursor
import SqlGauge.Measurement

/-!
# The reading of a result

A result is read for the number in the first cell of its first row. Further columns and further rows
are ignored with an advisory, but the rows are pulled to the end. `Cursor.measure` finds the
measurement, and `Cursor.readOut` releases the cursor as well, whatever came of it
(`Cursor.closed_readOut`): trouble met while releasing is joined to an earlier failure and never takes
its place.
-/

namespace SqlGauge

/-- Something about a result that is not wrong but worth a look. -/
inductive Advisory where
  | extraColumns
  | extraRows
deriving DecidableEq

/-- The wording of an advisory. -/
def Advisory.text : Advisory → String
  | extraColumns => "extra columns ignored"
  | extraRows => "extra rows ignored"

/-- What a result was read as. -/
structure Reading where
  value : Binary64
  advisories : List Advisory
  rowCount : Nat
  columns : List String
deriving DecidableEq

namespace Reading

/-- The line logged when there are further columns. -/
def columnsLine (columns : List String) : Line :=
  ⟨.warning, "期望只返回一列，将使用第一列 (columns=" ++ Text.quotedList columns ++ ")"⟩

/-- A text cell as messages show it. -/
def cellShown : Option String → String
  | none => "None"
  | some text => Text.quoted text

/-- The line logged for a further row. -/
def rowLine (columns : List String) (row : Row) (number : Nat) : Line :=
  ⟨.warning, "查询返回了多于一行，已跳过 (columns=" ++ Text.quotedList columns ++ ", values="
    ++ Text.bracketed (row.map cellShown) ++ ", row=" ++ toString number ++ ")"⟩

/-- The lines logged for further rows, the first of which has the given number. -/
def rowLines (columns : List String) : Nat → List Row → List Line
  | _, [] => []
  | number, row :: rest => rowLine columns row number :: rowLines columns (number + 1) rest

/-- The advisories about the number of columns and about further rows. -/
def advise (columns : List String) (further : List Row) : List Advisory :=
  (if 1 < columns.length then [.extraColumns] else []) ++
    (if further = [] then [] else [.extraRows])

/-- The trouble with a result without columns. -/
def noColumns : Trouble :=
  .failure { cause := .noColumns Cause.noColumnsText }

/-- The trouble with a result without rows. -/
def noRows (columns : List String) : Trouble :=
  .failure { cause := .noRows Cause.noRowsText columns }

end Reading

/-- Trouble met while reading rows, as a failure: what is one already stays as it is. -/
def Trouble.whileReading : Trouble → Failure
  | .failure known => known
  | trouble =>
    { cause := .query ("failed to read rows: " ++ trouble.message) "" (some trouble.record) }

/-- Trouble met while releasing a result that had been read. -/
def Trouble.whileReleasing (trouble : Trouble) : Failure :=
  { cause := .release ("failed to release result: " ++ trouble.message) (some trouble.record) }

namespace Cursor

open Reading

/-- What measuring brings, the lines it logs, and the cursor it leaves. -/
structure Measured where
  result : Except Trouble Reading
  lines : List Line
  cursor : Cursor

/-- Finds the measurement in the rows that are left. Without columns no row is pulled; the first
row is judged before the next one is pulled. -/
def measure (unquote : Bool) (cursor : Cursor) : Measured :=
  let columns := cursor.columns
  let lines := if 1 < columns.length then [columnsLine columns] else []
  if columns = [] then ⟨.error noColumns, [], cursor⟩
  else
    match cursor.pull with
    | (.done, next) => ⟨.error (noRows columns), lines, next⟩
    | (.trouble trouble, next) => ⟨.error trouble, lines, next⟩
    | (.row [], next) => ⟨.error (.refusal (.noFirstCell cursor.form)), lines, next⟩
    | (.row (cell :: _), next) =>
      match Measurement.ofCell unquote cell with
      | .error trouble => ⟨.error trouble, lines, next⟩
      | .ok value =>
        let (drained, last) := next.drain
        let lines := lines ++ rowLines columns 2 drained.rows
        match drained.trouble with
        | some trouble => ⟨.error trouble, lines, last⟩
        | none =>
          ⟨.ok { value, columns, advisories := advise columns drained.rows,
                 rowCount := drained.rows.length + 1 }, lines, last⟩

/-- What came of the measuring and of the release after it. -/
def settle : Except Trouble Reading → Option Trouble → Except Failure Reading
  | .ok reading, none => .ok reading
  | .ok _, some trouble => .error trouble.whileReleasing
  | .error trouble, none => .error trouble.whileReading
  | .error trouble, some later =>
    .error { trouble.whileReading with released := some later.record }

/-- Finds the measurement and releases the cursor. -/
def readOut (unquote : Bool) (cursor : Cursor) : Outcome Failure Reading × Cursor :=
  let measured := cursor.measure unquote
  let (released, closed) := measured.cursor.close
  (⟨settle measured.result released.trouble,
    { events := cursor.pullsTo measured.cursor ++ released.events, lines := measured.lines }⟩,
    closed)

/-- Whatever came of it, the cursor is closed afterwards. -/
theorem closed_readOut (unquote : Bool) (cursor : Cursor) :
    (cursor.readOut unquote).2.closed = true :=
  closed_close _

end Cursor

end SqlGauge
