import SqlGauge.Report
import SqlGauge.Session
import SqlGauge.Text.Blank

/-!
# Probes

A probe checks one database query against its thresholds, as its settings say. It reads the
thresholds when they are first needed and keeps them (`Probe.thresholds`). `Probe.run` is a whole
check: settings that cannot be used are critical, and a check that fails is unknown, so there is
always a report. `Probe.perform` is the part that asks the database.

The database is let go in the end however the check went, and trouble met there is only logged.
-/

namespace SqlGauge

/-- The thresholds of a check. -/
structure Thresholds where
  warning : Threshold
  critical : Threshold
deriving DecidableEq

namespace Thresholds

/-- Reads a threshold that was given by a flag. -/
def readFlag (name spec : String) : Except Failure Threshold :=
  (Threshold.read spec).mapError fun flaw =>
    .ofSettings (name ++ " error: " ++ (flaw.failure spec).message)

/-- The failure to find a query. -/
def queryMissing : Failure :=
  .ofSettings "--query is required"

/-- Reads the thresholds of settings, and sees that there is a query. -/
def ofSettings (settings : Settings) : Except Failure Thresholds := do
  let warning ← readFlag "--warning" settings.warning
  let critical ← readFlag "--critical" settings.critical
  if Text.isBlankText settings.query then .error queryMissing
  else return { warning, critical }

end Thresholds

/-- A check with its settings, and its thresholds once they have been read. -/
structure Probe where
  settings : Settings
  thresholds : Option Thresholds := none
deriving DecidableEq

namespace Probe

/-! ## Thresholds -/

/-- Reads the thresholds and keeps them. A failure leaves the probe as it was. -/
def readThresholds (probe : Probe) : Except Failure Thresholds × Probe :=
  match Thresholds.ofSettings probe.settings with
  | .ok thresholds => (.ok thresholds, { probe with thresholds := some thresholds })
  | .error failure => (.error failure, probe)

/-- The thresholds, read if they have not been read before. -/
def needThresholds (probe : Probe) : Except Failure Thresholds × Probe :=
  match probe.thresholds with
  | some thresholds => (.ok thresholds, probe)
  | none => probe.readThresholds

/-- Judges a measurement by the thresholds. -/
def judge (probe : Probe) (value : Binary64) : Except Failure Report × Probe :=
  let (thresholds, next) := probe.needThresholds
  (thresholds.map fun t => Report.judge t.warning t.critical value, next)

/-! ## Asking the database -/

/-- The stages of a check at which it may fail. -/
inductive Stage where
  | opening
  | asking
  | reading
deriving DecidableEq

/-- The name of a stage in messages. -/
def Stage.name : Stage → String
  | opening => "open db"
  | asking => "query"
  | reading => "read"

/-- The report on trouble at a stage, and the line logged about it. What is no failure of a check
was not expected. -/
def troubled (stage : Stage) : Trouble → Report × Line
  | .failure known =>
    (Report.failed stage.name known, ⟨.error, stage.name ++ " 失败: " ++ known.message⟩)
  | trouble =>
    (Report.failed stage.name { cause := .check ("unexpected error: " ++ trouble.message) },
      ⟨.error, "检查执行异常: " ++ trouble.message⟩)

/-- The report on what was measured. -/
def measured (thresholds : Thresholds) (reading : Reading) : Report :=
  { Report.judge thresholds.warning thresholds.critical reading.value with
    advisories := reading.advisories }

/-- A report with the journal of the way to it. -/
structure Checked where
  report : Report
  journal : Journal
deriving DecidableEq

/-- The report on trouble at a stage, after what had been done before. -/
def fail (stage : Stage) (trouble : Trouble) (before : Journal) : Checked :=
  let (report, line) := troubled stage trouble
  ⟨report, before ++ .ofLines [line]⟩

/-- Asks an open database for the measurement and judges it. -/
def ask (settings : Settings) (thresholds : Thresholds) (database : Database) : Checked :=
  let session := Session.query settings database
  match session.result with
  | .error trouble => fail .asking trouble session.journal
  | .ok cursor =>
    let (outcome, _) := cursor.readOut settings.unquote
    let journal := session.journal ++ outcome.journal
    match outcome.result with
    | .error failure => fail .reading (.failure failure) journal
    | .ok reading => ⟨measured thresholds reading, journal⟩

/-- Opens a database, asks it and lets it go. -/
def check (settings : Settings) (thresholds : Thresholds) (database : Database) : Checked :=
  let opening := Session.start settings database
  match opening.result with
  | .error trouble => fail .opening trouble opening.journal
  | .ok () =>
    let asked := ask settings thresholds database
    ⟨asked.report, opening.journal ++ asked.journal ++ Session.finish database⟩

/-- Checks a database. Only settings that cannot be used leave no report. -/
def perform (probe : Probe) (database : Database) : Outcome Failure Report × Probe :=
  match probe.needThresholds with
  | (.error failure, next) => (⟨.error failure, {}⟩, next)
  | (.ok thresholds, next) =>
    let checked := check probe.settings thresholds database
    (⟨.ok checked.report, checked.journal⟩, next)

/-- The line logged about settings that cannot be used. -/
def rejectionLine (failure : Failure) : Line :=
  ⟨.error, "配置校验失败: " ++ failure.message⟩

/-- The report that settings cannot be used. Nothing is asked of the database. -/
def rejected (failure : Failure) : Checked :=
  ⟨Report.rejected failure, .ofLines [rejectionLine failure]⟩

/-- Reads the thresholds anew and checks a database. There is always a report. -/
def run (probe : Probe) (database : Database) : Checked × Probe :=
  match probe.readThresholds with
  | (.error failure, next) => (rejected failure, next)
  | (.ok thresholds, next) => (check probe.settings thresholds database, next)

end Probe

end SqlGauge
