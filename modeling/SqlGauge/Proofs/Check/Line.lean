import SqlGauge.Proofs.Check.Verdict
import SqlGauge.Proofs.Check.Wording

/-!
# The lines of a report

A message of a check repeats some texts as they are: what the database raises, and the start of a
statement that it does not take. `Probe.repeated` lists them for a check, and the report has a message
of one line just if none of them holds a line feed (`Probe.unbroken_check_iff`).
-/

namespace SqlGauge

/-! ## What is repeated -/

/-- The wording of trouble without what was joined to it. -/
def Trouble.told : Trouble → String
  | .failure known => { known with released := none : Failure }.message
  | trouble => trouble.message

/-- The trouble with the rows of the result, if it is met. A first cell without a number ends the
reading before. -/
def Database.rowTrouble? (unquote : Bool) (database : Database) : Option Trouble :=
  match (database.measured unquote).result with
  | .error trouble => if database.cursor.fault = some trouble then some trouble else none
  | .ok _ => none

/-- The texts that a failed reading repeats: the trouble with the rows, and that with the release. -/
def readingTexts : (rows released : Option Trouble) → List String
  | none, none => []
  | some trouble, none => [trouble.message]
  | none, some later => [later.message]
  | some trouble, some later => [trouble.told, later.message]

/-- The texts that the report of a check repeats as they are. -/
def Probe.repeated (settings : Settings) (database : Database) : List String :=
  match Session.opening settings, database.createFault, database.connectFault,
    database.executeFault with
  | .error _, _, _, _ => []
  | .ok _, some trouble, _, _ => [trouble.message]
  | .ok _, none, some trouble, _ =>
    trouble.message :: if trouble.isDatabase then [preview settings.query] else []
  | .ok _, none, none, some trouble =>
    if trouble.isDatabase then
      match database.connectionCloseFault with
      | some later => [later.message]
      | none => [trouble.message, preview settings.query]
    else [trouble.message]
  | .ok _, none, none, none =>
    readingTexts (database.rowTrouble? settings.unquote) database.releaseTrouble

/-! ## Failures -/

theorem Trouble.unbroken_reported_iff {trouble : Trouble} :
    Text.Unbroken trouble.reported.message ↔ Text.Unbroken trouble.message := by
  have hunexpected : Text.Unbroken "unexpected error: " := .literal rfl (by decide)
  have hmessage (text : String) :
      Text.Unbroken ({ cause := .check ("unexpected error: " ++ text) } : Failure).message ↔
        Text.Unbroken text := by
    rw [Failure.message_unreleased]
    show Text.Unbroken ("unexpected error: " ++ text ++ "") ↔ _
    rw [String.append_empty, Text.unbroken_append, and_iff_right hunexpected]
  cases trouble with
  | failure known => exact Iff.rfl
  | fault fault => exact hmessage _
  | refusal refusal => exact hmessage _

/-- A failure of a query without a statement is broken just if its own message is. -/
theorem unbroken_query_iff {complaint text : String} {origin : Option Record}
    (h : Text.Unbroken complaint) :
    Text.Unbroken ({ cause := .query (complaint ++ text) "" origin } : Failure).message ↔
      Text.Unbroken text := by
  rw [Failure.message_unreleased]
  show Text.Unbroken (complaint ++ text ++ "") ↔ _
  rw [String.append_empty, Text.unbroken_append, and_iff_right h]

theorem Session.unbroken_whileOpening_iff {trouble : Trouble} :
    Text.Unbroken (whileOpening trouble).reported.message ↔ Text.Unbroken trouble.message := by
  unfold whileOpening
  split
  · exact unbroken_query_iff (.literal rfl (by decide))
  · exact Trouble.unbroken_reported_iff

theorem Session.unbroken_aboutStatement_iff {complaint statement : String} {trouble : Trouble}
    (h : Text.Unbroken complaint) :
    Text.Unbroken (aboutStatement complaint statement trouble).reported.message ↔
      Text.Unbroken trouble.message ∧ Text.Unbroken (preview statement) := by
  have hcolon : Text.Unbroken ": " := .literal rfl (by decide)
  show Text.Unbroken (complaint ++ ": " ++ trouble.message ++
    (Cause.query _ statement (some trouble.record)).statementNote) ↔ _
  rw [Text.unbroken_append, Cause.unbroken_statementNote_iff, Text.unbroken_append,
    Text.unbroken_append, and_iff_right (And.intro h hcolon)]

/-! ## Readings -/

theorem Trouble.unbroken_whileReading_iff {trouble : Trouble} :
    Text.Unbroken trouble.whileReading.message ↔ Text.Unbroken trouble.message := by
  cases trouble with
  | failure known => exact Iff.rfl
  | fault fault => exact unbroken_query_iff (.literal rfl (by decide))
  | refusal refusal => exact unbroken_query_iff (.literal rfl (by decide))

theorem Trouble.unbroken_told_iff {trouble : Trouble} :
    Text.Unbroken trouble.told ↔
      Text.Unbroken trouble.whileReading.cause.message ∧
        Text.Unbroken trouble.whileReading.cause.statementNote := by
  have hunreleased (cause : Cause) : Text.Unbroken ({ cause } : Failure).message ↔
      Text.Unbroken cause.message ∧ Text.Unbroken cause.statementNote := by
    rw [Failure.message_unreleased, Text.unbroken_append]
  cases trouble with
  | failure known => exact hunreleased known.cause
  | fault fault =>
    rw [← hunreleased]
    exact (@unbroken_whileReading_iff (.fault fault)).symm
  | refusal refusal =>
    rw [← hunreleased]
    exact (@unbroken_whileReading_iff (.refusal refusal)).symm

theorem Trouble.unbroken_whileReleasing_iff {trouble : Trouble} :
    Text.Unbroken trouble.whileReleasing.message ↔ Text.Unbroken trouble.message := by
  have hcomplaint : Text.Unbroken "failed to release result: " := .literal rfl (by decide)
  unfold whileReleasing
  rw [Failure.message_unreleased]
  show Text.Unbroken ("failed to release result: " ++ trouble.message ++ "") ↔ _
  rw [String.append_empty, Text.unbroken_append, and_iff_right hcomplaint]

/-- Trouble with a release is joined to what was told before. -/
theorem Trouble.unbroken_joined_iff {trouble later : Trouble} :
    Text.Unbroken { trouble.whileReading with released := some later.record : Failure }.message ↔
      Text.Unbroken trouble.told ∧ Text.Unbroken later.message := by
  rw [Failure.unbroken_message_iff, unbroken_told_iff]
  simp only [Option.mem_def, Option.some.injEq, forall_eq']
  exact and_right_comm

/-- A failed reading is told in one line just if the texts it repeats are. -/
theorem Database.unbroken_reading_iff {unquote : Bool} {database : Database} {failure : Failure}
    (h : Cursor.settle (database.measured unquote).result database.releaseTrouble =
      .error failure) :
    Text.Unbroken failure.message ↔
      ∀ text ∈ readingTexts (database.rowTrouble? unquote) database.releaseTrouble,
        Text.Unbroken text := by
  unfold rowTrouble?
  cases hresult : (database.measured unquote).result with
  | ok reading =>
    rw [hresult] at h
    cases hreleased : database.releaseTrouble with
    | none =>
      rw [hreleased] at h
      cases h
    | some later =>
      rw [hreleased] at h
      cases h
      rw [Trouble.unbroken_whileReleasing_iff]
      exact List.forall_mem_singleton.symm
  | error trouble =>
    have hplain := Cursor.of_measure_eq_error hresult
    rw [hresult] at h
    dsimp only
    by_cases hfault : database.cursor.fault = some trouble
    · rw [if_pos hfault]
      cases hreleased : database.releaseTrouble with
      | none =>
        rw [hreleased] at h
        cases h
        rw [Trouble.unbroken_whileReading_iff]
        exact List.forall_mem_singleton.symm
      | some later =>
        rw [hreleased] at h
        cases h
        rw [Trouble.unbroken_joined_iff]
        simp [readingTexts]
    · -- what is not the fault of the rows is told in one line
      have hplain : Text.Unbroken trouble.whileReading.message := hplain.resolve_left hfault
      rw [if_neg hfault]
      cases hreleased : database.releaseTrouble with
      | none =>
        rw [hreleased] at h
        cases h
        exact iff_of_true hplain (List.forall_mem_nil _)
      | some later =>
        obtain ⟨⟨hcause, _⟩, hnote⟩ := Failure.unbroken_message_iff.mp hplain
        rw [hreleased] at h
        cases h
        rw [Trouble.unbroken_joined_iff, Trouble.unbroken_told_iff,
          and_iff_right (And.intro hcause hnote)]
        exact List.forall_mem_singleton.symm

/-! ## Reports -/

namespace Report

theorem unbroken_failed_iff {stage : String} {failure : Failure} (h : Text.Unbroken stage) :
    Text.Unbroken (failed stage failure).message ↔ Text.Unbroken failure.message := by
  have hstart : Text.Unbroken "error executing check: " := .literal rfl (by decide)
  have hmiddle : Text.Unbroken " error: " := .literal rfl (by decide)
  unfold failed
  simp only [Text.unbroken_append]
  exact and_iff_right ⟨⟨hstart, h⟩, hmiddle⟩

theorem unbroken_alert {threshold : Threshold} (h : Text.Unbroken threshold.text) (state : State)
    (value : Binary64) : Text.Unbroken (alert state threshold value).message := by
  have hname : Text.Unbroken state.name := by cases state <;> decide
  unfold alert
  simp only [Text.unbroken_append]
  exact ⟨⟨⟨⟨hname, .literal rfl (by decide)⟩, value.unbroken_fixedText⟩, .literal rfl (by decide)⟩, h⟩

theorem unbroken_measured {thresholds : Thresholds}
    (hwarning : Text.Unbroken thresholds.warning.text)
    (hcritical : Text.Unbroken thresholds.critical.text) (reading : Reading) :
    Text.Unbroken (Probe.measured thresholds reading).message := by
  unfold Probe.measured judge
  split
  · exact unbroken_alert hcritical .critical _
  · split
    · exact unbroken_alert hwarning .warning _
    · refine Text.unbroken_append.mpr ⟨?_, reading.value.unbroken_fixedText⟩
      decide

end Report

namespace Probe

theorem unbroken_stage (stage : Stage) : Text.Unbroken stage.name := by
  cases stage <;> decide

/-- The message of a report is told in one line just if the texts it repeats are. -/
theorem unbroken_check_iff {settings : Settings} {thresholds : Thresholds} {database : Database}
    (hdriver : settings.driver ∈ Settings.allowedDrivers)
    (hwarning : Text.Unbroken thresholds.warning.text)
    (hcritical : Text.Unbroken thresholds.critical.text) :
    Text.Unbroken (check settings thresholds database).report.message ↔
      ∀ text ∈ repeated settings database, Text.Unbroken text := by
  have course := course_check settings thresholds database
  generalize check settings thresholds database = checked at course ⊢
  unfold repeated
  cases course with
  | unaddressed address =>
    rw [Report.unbroken_failed_iff (unbroken_stage _), Trouble.unbroken_reported_iff, address]
    exact iff_of_true (Session.failsAs_opening hdriver _ address)
      (List.forall_mem_nil _)
  | uncreated address create =>
    rw [Report.unbroken_failed_iff (unbroken_stage _), Session.unbroken_whileOpening_iff, address,
      create]
    exact List.forall_mem_singleton.symm
  | @unconnected event trouble met address create connect hmet =>
    rw [Report.unbroken_failed_iff (unbroken_stage _), address, create, connect, hmet]
    dsimp only
    by_cases hdatabase : trouble.isDatabase = true
    · rw [if_pos hdatabase, if_pos hdatabase,
        Session.unbroken_aboutStatement_iff (.literal rfl (by decide))]
      simp
    · rw [if_neg hdatabase, if_neg hdatabase, Trouble.unbroken_reported_iff]
      exact List.forall_mem_singleton.symm
  | @unexecuted event trouble met address create connect execute hmet =>
    rw [Report.unbroken_failed_iff (unbroken_stage _), address, create, connect, execute, hmet]
    dsimp only
    by_cases hdatabase : trouble.isDatabase = true
    · rw [if_pos hdatabase, if_pos hdatabase]
      cases database.connectionCloseFault with
      | some later =>
        rw [Option.getD_some, Trouble.unbroken_reported_iff]
        exact List.forall_mem_singleton.symm
      | none =>
        rw [Option.getD_none, Session.unbroken_aboutStatement_iff (.literal rfl (by decide))]
        simp
    · rw [if_neg hdatabase, if_neg hdatabase, Trouble.unbroken_reported_iff]
      exact List.forall_mem_singleton.symm
  | unread address create connect execute reading =>
    rw [Report.unbroken_failed_iff (unbroken_stage _), address, create, connect, execute]
    exact Database.unbroken_reading_iff reading
  | read address create connect execute result =>
    obtain ⟨hresult, hreleased⟩ := Cursor.settle_eq_ok_iff.mp result
    have hrows : database.rowTrouble? settings.unquote = none := by
      unfold Database.rowTrouble?
      rw [hresult]
    rw [address, create, connect, execute]
    dsimp only
    rw [hrows, hreleased]
    exact iff_of_true (Report.unbroken_measured hwarning hcritical _)
      (List.forall_mem_nil _)

end Probe

end SqlGauge
