import SqlGauge.Probe
import SqlGauge.Settings.Draft

/-!
# Probes by a draft

A check may be asked for while some of its settings are blank. A blank threshold or query is met
when the thresholds are read, and leaves no report at all. A blank port is met when the address is
put together from its parts, which is trouble while opening the database like any other.

Without blanks the check is the one by its settings (`runDraft_complete`).
-/

namespace SqlGauge

namespace Thresholds

/-- Reads the thresholds of a draft, and sees that there is a query. Each of these settings is needed
when its turn comes. -/
def ofDraft (draft : Draft) : Except Trouble Thresholds := do
  (draft.need .warning .start).mapError .refusal
  let warning ← (readFlag "--warning" draft.settings.warning).mapError .failure
  (draft.need .critical .start).mapError .refusal
  let critical ← (readFlag "--critical" draft.settings.critical).mapError .failure
  (draft.need .query .trimming).mapError .refusal
  if Text.isBlankText draft.settings.query then .error (.failure queryMissing)
  else return { warning, critical }

theorem ofDraft_complete (settings : Settings) :
    ofDraft { settings } = (ofSettings settings).mapError .failure := by
  unfold ofDraft ofSettings
  simp only [Draft.need_complete]
  cases readFlag "--warning" settings.warning with
  | error failure => rfl
  | ok warning =>
    cases readFlag "--critical" settings.critical with
    | error failure => rfl
    | ok critical => cases Text.isBlankText settings.query <;> rfl

end Thresholds

namespace Probe

/-- Needs the port, unless the address is given as a whole. -/
def needPort (draft : Draft) : Except Refusal Unit :=
  if draft.filled.dburl = "" then draft.need .port .above else .ok ()

theorem needPort_complete (settings : Settings) : needPort { settings } = .ok () := by
  simp [needPort, Draft.need_complete]

/-- Reads the thresholds of a draft and checks a database. -/
def runDraft (draft : Draft) (database : Database) : Except Trouble Checked :=
  match Thresholds.ofDraft draft with
  | .error (.failure failure) => .ok (rejected failure)
  | .error trouble => .error trouble
  | .ok thresholds =>
    match needPort draft with
    | .error refusal => .ok (fail .opening (.refusal refusal) {})
    | .ok () => .ok (check draft.filled thresholds database)

theorem runDraft_complete (settings : Settings) (database : Database) :
    runDraft { settings } database = .ok (run { settings } database).1 := by
  unfold runDraft run readThresholds
  rw [Thresholds.ofDraft_complete, needPort_complete, Draft.filled_complete]
  cases Thresholds.ofSettings settings <;> rfl

end Probe

end SqlGauge
