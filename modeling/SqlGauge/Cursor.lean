import SqlGauge.Cell
import SqlGauge.Journal

/-!
# Cursors

A cursor hands over the rows of a result one by one and is released in the end. Rows that cannot be
read on, and rows that have no text, break it off: after that, and after the last row, it is at its
end. Releasing works through a list of steps, each of which is taken although an earlier one failed,
and it happens once however often it is asked for (`Cursor.close_close`).

`Cursor.pull` hands over a row, `Cursor.drain` all that are left, `Cursor.close` releases.
-/

namespace SqlGauge

/-- One step of a release. -/
structure ReleaseStep where
  event : Event
  fault : Option Trouble := none
deriving DecidableEq

/-- A result that is read row by row. -/
structure Cursor where
  columns : List String
  form : RowForm
  /-- The rows that have not been handed over yet. -/
  rows : List (List Cell)
  /-- What breaks the cursor off after these rows. -/
  fault : Option Trouble := none
  /-- What is to be done to release it. -/
  release : List ReleaseStep := []
  /-- How many rows have been handed over. -/
  pulled : Nat := 0
  closed : Bool := false
deriving DecidableEq

namespace Cursor

/-! ## Rows -/

/-- What a pull brings. -/
inductive Pull where
  | row (row : Row)
  | trouble (trouble : Trouble)
  | done
deriving DecidableEq

/-- Pulls the next row. -/
def pull (cursor : Cursor) : Pull × Cursor :=
  match cursor.rows with
  | [] =>
    match cursor.fault with
    | none => (.done, cursor)
    | some trouble => (.trouble trouble, { cursor with fault := none })
  | row :: rest =>
    match Cell.rowText row with
    | .ok texts => (.row texts, { cursor with rows := rest, pulled := cursor.pulled + 1 })
    | .error refusal =>
      (.trouble (.refusal refusal),
        { cursor with rows := [], fault := none, pulled := cursor.pulled + 1 })

/-- What draining brings: the rows, the trouble that broke them off, and how many were pulled. -/
structure Drained where
  rows : List Row
  trouble : Option Trouble
  pulled : Nat
deriving DecidableEq

/-- Drains rows after which there may be a fault. -/
def drainRows (fault : Option Trouble) : List (List Cell) → Drained
  | [] => ⟨[], fault, 0⟩
  | row :: rest =>
    match Cell.rowText row with
    | .ok texts =>
      let drained := drainRows fault rest
      ⟨texts :: drained.rows, drained.trouble, drained.pulled + 1⟩
    | .error refusal => ⟨[], some (.refusal refusal), 1⟩

/-- Pulls all rows that are left. -/
def drain (cursor : Cursor) : Drained × Cursor :=
  let drained := drainRows cursor.fault cursor.rows
  (drained, { cursor with rows := [], fault := none, pulled := cursor.pulled + drained.pulled })

/-- The pulls that lead from one state of a cursor to a later one. -/
def pullsTo (before after : Cursor) : List Event :=
  (List.range' (before.pulled + 1) (after.pulled - before.pulled)).map .row

/-- Rows of nulls and texts are drained as they are. -/
theorem drainRows_ofRow (fault : Option Trouble) (rows : List Row) :
    drainRows fault (rows.map Cell.ofRow) = ⟨rows, fault, rows.length⟩ := by
  induction rows with
  | nil => rfl
  | cons row rest ih => simp [drainRows, Cell.rowText_ofRow, ih]

/-! ## Release -/

/-- What releasing brings: the trouble of the last step that failed, and the events. -/
structure Released where
  trouble : Option Trouble
  events : List Event
deriving DecidableEq

/-- Releases the cursor, unless it has been released before. -/
def close (cursor : Cursor) : Released × Cursor :=
  if cursor.closed then (⟨none, []⟩, cursor)
  else
    (⟨(cursor.release.filterMap (·.fault)).getLast?, cursor.release.map (·.event)⟩,
      { cursor with closed := true })

/-- After a release the cursor is closed. -/
theorem closed_close (cursor : Cursor) : cursor.close.2.closed = true := by
  unfold close
  split
  · assumption
  · rfl

/-- A second release does nothing. -/
theorem close_close (cursor : Cursor) :
    cursor.close.2.close = (⟨none, []⟩, cursor.close.2) := by
  rw [close, if_pos (closed_close cursor)]

/-- How a cursor is described. -/
def description (cursor : Cursor) : String :=
  "QueryResult(columns=" ++ Text.quotedList cursor.columns ++ ", closed="
    ++ (if cursor.closed then "True" else "False") ++ ")"

end Cursor

end SqlGauge
