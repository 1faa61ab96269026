import SqlGauge.Settings.Basic

/-!
# Drafts of settings

A flag may be given no value at all; its setting is then left blank and holds an empty list in the
place of a value. A `Draft` is settings of which some are blank. That is no trouble as long as
nobody needs the setting: `Draft.validate` needs driver and timeout, and `Draft.need` says so of any
other. Where a setting is only written out, `Draft.filled` gives the text.

A draft without blanks is nothing but its settings (`validate_complete`, `filled_complete`).
-/

namespace SqlGauge

/-- Settings of which some are blank. What the settings say of these does not count. -/
structure Draft where
  settings : Settings
  blanks : List Setting := []
deriving DecidableEq

namespace Draft

/-! ## Values -/

/-- Gives a setting a value. It is not blank any more. -/
def set (draft : Draft) (setting : Setting) (value : setting.Value) : Draft where
  settings := draft.settings.set setting value
  blanks := draft.blanks.filter (· ≠ setting)

/-- Leaves a setting blank. -/
def leave (draft : Draft) (setting : Setting) : Draft :=
  { draft with blanks := setting :: draft.blanks.filter (· ≠ setting) }

theorem mem_blanks_set {draft : Draft} {setting other : Setting} {value : setting.Value} :
    other ∈ (draft.set setting value).blanks ↔ other ∈ draft.blanks ∧ other ≠ setting := by
  simp [set]

theorem set_complete (settings : Settings) (setting : Setting) (value : setting.Value) :
    set { settings } setting value = { settings := settings.set setting value } := rfl

/-! ## Needs -/

/-- Refuses what is asked of a setting that is blank. -/
def need (draft : Draft) (setting : Setting) (demand : Demand) : Except Refusal Unit :=
  if setting ∈ draft.blanks then .error (.emptyList demand) else .ok ()

theorem need_complete (settings : Settings) (setting : Setting) (demand : Demand) :
    need { settings } setting demand = .ok () := rfl

/-- Checks that the driver is there. -/
def validateDriver (draft : Draft) : Except Failure Unit :=
  if .driver ∈ draft.blanks then .error (Settings.driverFailure (Text.bracketed []))
  else draft.settings.validateDriver

/-- Checks the values that are limited: the driver first, then the timeout. -/
def validate (draft : Draft) : Except Trouble Unit := do
  draft.validateDriver.mapError .failure
  (draft.need .timeout .atMost).mapError .refusal
  draft.settings.validateTimeout.mapError .failure

theorem validate_complete (settings : Settings) :
    validate { settings } = settings.validate.mapError .failure := by
  simp only [validate, validateDriver, need_complete, Settings.validate, List.not_mem_nil, if_false]
  cases settings.validateDriver <;> rfl

/-! ## Texts -/

/-- Empties a setting. A password is written as the empty list it is then; any other setting counts
as not given. -/
def emptied (settings : Settings) : Setting → Settings
  | .dburl => { settings with dburl := "" }
  | .host => { settings with host := "" }
  | .user => { settings with user := "" }
  | .password => { settings with password := Text.bracketed [] }
  | .database => { settings with database := "" }
  | _ => settings

/-- The settings by which a database is found. -/
def filled (draft : Draft) : Settings :=
  draft.blanks.foldl emptied draft.settings

theorem filled_complete (settings : Settings) : filled { settings } = settings := rfl

end Draft

end SqlGauge
