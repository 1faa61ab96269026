import SqlGauge.Reading
import SqlGauge.Threshold

/-!
# Reports of a check

A report gives the state of what was checked, and the line that says so. The number of a state is
the exit code of a check, which tells the states apart (`State.exitCode_injective`). A measurement is
judged by the critical threshold first and then by the warning threshold (`Report.judge`); a check that
failed itself is reported as unknown.
-/

namespace SqlGauge

/-- The states, in the order of their numbers. -/
inductive State where
  | ok
  | warning
  | critical
  | unknown
deriving DecidableEq

namespace State

/-- All states. -/
def all : List State := [ok, warning, critical, unknown]

/-- The name of a state. -/
def name : State → String
  | ok => "OK"
  | warning => "WARNING"
  | critical => "CRITICAL"
  | unknown => "UNKNOWN"

/-- The number of a state. -/
def exitCode : State → Nat
  | ok => 0
  | warning => 1
  | critical => 2
  | unknown => 3

/-- Whether something is wrong. -/
def isProblem (state : State) : Bool :=
  state ≠ ok

theorem exitCode_le (state : State) : state.exitCode ≤ 3 := by
  cases state <;> decide

theorem exitCode_injective {a b : State} (h : a.exitCode = b.exitCode) : a = b := by
  cases a <;> cases b <;> first | rfl | exact absurd h (by decide)

end State

/-- What a check reports. -/
structure Report where
  state : State
  message : String
  value : Option Binary64 := none
  /-- The threshold that raised the alert. -/
  threshold : String := ""
  advisories : List Advisory := []
  failure : Option Failure := none
deriving DecidableEq

namespace Report

/-- How a report is described. -/
def description (report : Report) : String :=
  "CheckResult(state=" ++ report.state.name ++ ", value="
    ++ report.value.elim "None" Binary64.shortText ++ ")"

/-- Whether the check itself succeeded, whatever it measured. -/
def success (report : Report) : Bool :=
  report.failure.isNone

/-- A measurement that raised an alert. -/
def alert (state : State) (threshold : Threshold) (value : Binary64) : Report where
  state := state
  message := state.name ++ ": result is " ++ value.fixedText ++ " which is out of " ++ threshold.text
  value := some value
  threshold := threshold.text

/-- Judges a measurement. -/
def judge (warning critical : Threshold) (value : Binary64) : Report :=
  if critical.alerts value then alert .critical critical value
  else if warning.alerts value then alert .warning warning value
  else
    { state := .ok
      message := State.ok.name ++ ": result is " ++ value.fixedText
      value := some value }

/-- Settings with which there is nothing to check. -/
def rejected (failure : Failure) : Report where
  state := .critical
  message := "error validating input: " ++ failure.message
  failure := some failure

/-- A check that failed at some stage. -/
def failed (stage : String) (failure : Failure) : Report where
  state := .unknown
  message := "error executing check: " ++ stage ++ " error: " ++ failure.message
  failure := some failure

end Report

end SqlGauge
