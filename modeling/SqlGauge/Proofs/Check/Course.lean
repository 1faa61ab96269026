import SqlGauge.Probe.Draft
import SqlGauge.Proofs.Cursor

/-!
# The course of a check

What is proved of a whole check goes through one case distinction. `Probe.Course` lists the ways a
check can go, each with what it takes and with the report and the journal it leaves, and
`Probe.course_check` says that every check goes one of them. Nothing else unfolds a check.

* **opening**: no address or no deadlines (`unaddressed`), or the database is not opened
  (`uncreated`);
* **asking**: no connection (`unconnected`), or the statement is refused (`unexecuted`);
* **reading**: the result is read out, and with its release a failure (`unread`) or a measurement
  (`read`) comes of it.
-/

namespace SqlGauge

/-! ## Opening -/

namespace Session

/-- The event of opening the database of a check, if it has an address and deadlines. -/
def opening (settings : Settings) : Except Trouble Event :=
  match Address.ofSettings settings with
  | .error trouble => .error trouble
  | .ok address =>
    match Deadlines.choose settings.timeout address with
    | .error refusal => .error (.refusal refusal)
    | .ok deadlines => .ok (.openEngine (address.text false) deadlines.arguments)

/-- An opening is an event of its own kind. -/
theorem exists_openEngine_of_opening {settings : Settings} {event : Event}
    (h : opening settings = .ok event) :
    ∃ address arguments, event = .openEngine address arguments := by
  unfold opening at h
  split at h
  · cases h
  · split at h
    · cases h
    · cases h
      exact ⟨_, _, rfl⟩

theorem start_of_opening_error {settings : Settings} {trouble : Trouble}
    (h : opening settings = .error trouble) (database : Database) :
    start settings database = ⟨.error trouble, {}⟩ := by
  unfold opening at h
  unfold start
  cases haddress : Address.ofSettings settings with
  | error met =>
    simp only [haddress] at h
    cases h
    rfl
  | ok address =>
    simp only [haddress] at h ⊢
    cases hdeadlines : Deadlines.choose settings.timeout address with
    | error refusal =>
      simp only [hdeadlines] at h
      cases h
      rfl
    | ok deadlines =>
      simp only [hdeadlines] at h
      cases h

theorem start_of_opening_ok {settings : Settings} {event : Event}
    (h : opening settings = .ok event) (database : Database) :
    start settings database =
      ⟨database.createFault.elim (.ok ()) fun trouble => .error (whileOpening trouble),
        .ofEvents [event]⟩ := by
  unfold opening at h
  unfold start
  cases haddress : Address.ofSettings settings with
  | error met =>
    simp only [haddress] at h
    cases h
  | ok address =>
    simp only [haddress] at h ⊢
    cases hdeadlines : Deadlines.choose settings.timeout address with
    | error refusal =>
      simp only [hdeadlines] at h
      cases h
    | ok deadlines =>
      simp only [hdeadlines] at h
      cases h
      cases database.createFault <;> rfl

/-! ## Asking -/

theorem query_of_connectFault (settings : Settings) {database : Database} {trouble : Trouble}
    (h : database.connectFault = some trouble) :
    query settings database =
      ⟨.error (if trouble.isDatabase
          then aboutStatement "cannot connect" settings.query trouble else trouble),
        .ofEvents [.connect]⟩ := by
  unfold query
  rw [h]

/-- The connection is closed after a refused statement just if the database layer refused it. -/
theorem query_of_executeFault (settings : Settings) {database : Database} {trouble : Trouble}
    (hconnect : database.connectFault = none) (h : database.executeFault = some trouble) :
    query settings database =
      ⟨.error (if trouble.isDatabase
          then database.connectionCloseFault.getD
            (aboutStatement "query failed" settings.query trouble)
          else trouble),
        .ofEvents (.connect :: (executeEvents settings
          ++ if trouble.isDatabase then [.closeConnection] else []))⟩ := by
  unfold query
  simp only [hconnect, h]
  split
  · rfl
  · rw [List.append_nil]

theorem query_of_executed (settings : Settings) {database : Database}
    (hconnect : database.connectFault = none) (h : database.executeFault = none) :
    query settings database =
      ⟨.ok database.cursor, .ofEvents (.connect :: executeEvents settings)⟩ := by
  unfold query
  simp only [hconnect, h]

end Session

/-! ## Reading -/

namespace Database

/-- What measuring the result of the statement brings. -/
def measured (unquote : Bool) (database : Database) : Cursor.Measured :=
  database.cursor.measure unquote

/-- The trouble with releasing the result. That with the connection comes last and wins. -/
def releaseTrouble (database : Database) : Option Trouble :=
  database.connectionCloseFault.or database.cursorCloseFault

/-- The events of pulling the first rows, as many as are given. -/
def rowEvents (count : Nat) : List Event :=
  (List.range' 1 count).map .row

theorem readOut_cursor (unquote : Bool) (database : Database) :
    (database.cursor.readOut unquote).1 =
      ⟨Cursor.settle (database.measured unquote).result database.releaseTrouble,
        ⟨rowEvents (database.measured unquote).cursor.pulled ++ [.closeCursor, .closeConnection],
          (database.measured unquote).lines⟩⟩ := by
  have hrelease : (database.cursor.release.filterMap (·.fault)).getLast? =
      database.releaseTrouble := by
    unfold releaseTrouble cursor
    -- the connection is closed last, so trouble met there is the last one
    cases database.cursorCloseFault <;> cases database.connectionCloseFault <;> rfl
  rw [Cursor.readOut_of_open unquote rfl, hrelease]
  rfl

end Database

/-! ## Reports -/

/-- Trouble as a check reports it. What is no failure of a check was not expected. -/
def Trouble.reported : Trouble → Failure
  | .failure known => known
  | trouble => { cause := .check ("unexpected error: " ++ trouble.message) }

/-! ## Thresholds -/

/-- Reading the thresholds, only the two of them and the query are looked at. -/
theorem Thresholds.ofDraft_congr {a b : Draft}
    (hneed : ∀ setting ∈ [Setting.warning, .critical, .query], ∀ demand,
      a.need setting demand = b.need setting demand)
    (hvalue : ∀ setting ∈ [Setting.warning, .critical, .query],
      a.settings.get setting = b.settings.get setting) : ofDraft a = ofDraft b := by
  have hwarning : a.settings.warning = b.settings.warning := hvalue .warning (by decide)
  have hcritical : a.settings.critical = b.settings.critical := hvalue .critical (by decide)
  have hquery : a.settings.query = b.settings.query := hvalue .query (by decide)
  unfold ofDraft
  rw [hneed .warning (by decide), hneed .critical (by decide), hneed .query (by decide), hwarning,
    hcritical, hquery]

namespace Probe

theorem report_troubled (stage : Stage) (trouble : Trouble) :
    (troubled stage trouble).1 = Report.failed stage.name trouble.reported := by
  cases trouble <;> rfl

/-- The line logged about trouble at a stage. -/
def troubleLine (stage : Stage) (trouble : Trouble) : Line :=
  (troubled stage trouble).2

theorem fail_eq (stage : Stage) (trouble : Trouble) (before : Journal) :
    fail stage trouble before =
      ⟨Report.failed stage.name trouble.reported,
        before ++ .ofLines [troubleLine stage trouble]⟩ := by
  rw [← report_troubled]
  rfl

theorem run_of_rejected {probe : Probe} {failure : Failure}
    (h : Thresholds.ofSettings probe.settings = .error failure) (database : Database) :
    (probe.run database).1 = rejected failure := by
  unfold run readThresholds
  rw [h]

theorem run_of_accepted {probe : Probe} {thresholds : Thresholds}
    (h : Thresholds.ofSettings probe.settings = .ok thresholds) (database : Database) :
    (probe.run database).1 = check probe.settings thresholds database := by
  unfold run readThresholds
  rw [h]

/-- What the probe remembers of earlier checks does not matter. -/
theorem run_forgetful (probe : Probe) (database : Database) :
    (run { settings := probe.settings } database).1 = (probe.run database).1 := by
  cases haccepted : Thresholds.ofSettings probe.settings with
  | error failure =>
    rw [run_of_rejected haccepted]
    exact @run_of_rejected { settings := probe.settings } failure haccepted database
  | ok thresholds =>
    rw [run_of_accepted haccepted]
    exact @run_of_accepted { settings := probe.settings } thresholds haccepted database

/-! ## What a check depends on -/

/-- Once the database is open, only the statement and the way to read its result are looked at. -/
theorem ask_congr {a b : Settings} (hquery : a.query = b.query)
    (harguments : a.queryArgs = b.queryArgs) (hunquote : a.unquote = b.unquote)
    (thresholds : Thresholds) (database : Database) :
    ask a thresholds database = ask b thresholds database := by
  unfold ask Session.query Session.executeEvents
  rw [hquery, harguments, hunquote]

/-! ## The ways a check can go -/

open Session

/-- The ways a check can go. -/
inductive Course (settings : Settings) (thresholds : Thresholds) (database : Database) :
    Checked → Prop where
  | unaddressed {trouble : Trouble} (address : opening settings = .error trouble) :
      Course settings thresholds database
        ⟨Report.failed Stage.opening.name trouble.reported,
          ⟨[], [troubleLine .opening trouble]⟩⟩
  | uncreated {event : Event} {trouble : Trouble} (address : opening settings = .ok event)
      (create : database.createFault = some trouble) :
      Course settings thresholds database
        ⟨Report.failed Stage.opening.name (whileOpening trouble).reported,
          ⟨[event], [troubleLine .opening (whileOpening trouble)]⟩⟩
  | unconnected {event : Event} {trouble met : Trouble} (address : opening settings = .ok event)
      (create : database.createFault = none) (connect : database.connectFault = some trouble)
      (hmet : met = if trouble.isDatabase
        then aboutStatement "cannot connect" settings.query trouble else trouble) :
      Course settings thresholds database
        ⟨Report.failed Stage.asking.name met.reported,
          ⟨[event, .connect, .dispose], troubleLine .asking met :: (finish database).lines⟩⟩
  | unexecuted {event : Event} {trouble met : Trouble} (address : opening settings = .ok event)
      (create : database.createFault = none) (connect : database.connectFault = none)
      (execute : database.executeFault = some trouble)
      (hmet : met = if trouble.isDatabase
        then database.connectionCloseFault.getD
          (aboutStatement "query failed" settings.query trouble)
        else trouble) :
      Course settings thresholds database
        ⟨Report.failed Stage.asking.name met.reported,
          ⟨event :: .connect :: (executeEvents settings
            ++ ((if trouble.isDatabase then [.closeConnection] else []) ++ [.dispose])),
            troubleLine .asking met :: (finish database).lines⟩⟩
  | unread {event : Event} {failure : Failure} (address : opening settings = .ok event)
      (create : database.createFault = none) (connect : database.connectFault = none)
      (execute : database.executeFault = none)
      (reading : Cursor.settle (database.measured settings.unquote).result
        database.releaseTrouble = .error failure) :
      Course settings thresholds database
        ⟨Report.failed Stage.reading.name failure,
          ⟨event :: .connect :: (executeEvents settings
            ++ (Database.rowEvents (database.measured settings.unquote).cursor.pulled
              ++ [.closeCursor, .closeConnection, .dispose])),
            (database.measured settings.unquote).lines
              ++ troubleLine .reading (.failure failure) :: (finish database).lines⟩⟩
  | read {event : Event} {reading : Reading} (address : opening settings = .ok event)
      (create : database.createFault = none) (connect : database.connectFault = none)
      (execute : database.executeFault = none)
      (result : Cursor.settle (database.measured settings.unquote).result
        database.releaseTrouble = .ok reading) :
      Course settings thresholds database
        ⟨Probe.measured thresholds reading,
          ⟨event :: .connect :: (executeEvents settings
            ++ (Database.rowEvents (database.measured settings.unquote).cursor.pulled
              ++ [.closeCursor, .closeConnection, .dispose])),
            (database.measured settings.unquote).lines ++ (finish database).lines⟩⟩

theorem course_of_eq {settings : Settings} {thresholds : Thresholds} {database : Database}
    {checked checked' : Checked} (course : Course settings thresholds database checked)
    (h : checked' = checked) : Course settings thresholds database checked' :=
  h ▸ course

/-- Every check goes one of these ways. -/
theorem course_check (settings : Settings) (thresholds : Thresholds) (database : Database) :
    Course settings thresholds database (check settings thresholds database) := by
  unfold check
  cases haddress : opening settings with
  | error trouble =>
    simp only [start_of_opening_error haddress, fail_eq]
    exact .unaddressed haddress
  | ok event =>
    simp only [start_of_opening_ok haddress]
    cases hcreate : database.createFault with
    | some trouble =>
      simp only [Option.elim_some, fail_eq]
      exact .uncreated haddress hcreate
    | none =>
      simp only [Option.elim_none]
      unfold ask
      cases hconnect : database.connectFault with
      | some trouble =>
        simp only [query_of_connectFault settings hconnect, fail_eq]
        exact .unconnected haddress hcreate hconnect rfl
      | none =>
        cases hexecute : database.executeFault with
        | some trouble =>
          -- the parts of the journal are appended one after the other, here and below
          refine course_of_eq (.unexecuted haddress hcreate hconnect hexecute rfl) ?_
          simp only [query_of_executeFault settings hconnect hexecute, fail_eq, finish,
            Journal.ofEvents, Journal.ofLines, Journal.mk_append, List.nil_append,
            List.append_nil, List.cons_append, List.append_assoc]
        | none =>
          simp only [query_of_executed settings hconnect hexecute, Database.readOut_cursor]
          cases hreading : Cursor.settle (database.measured settings.unquote).result
              database.releaseTrouble with
          | error failure =>
            refine course_of_eq (.unread haddress hcreate hconnect hexecute hreading) ?_
            simp only [fail_eq, Trouble.reported, finish, Journal.ofEvents, Journal.ofLines,
              Journal.mk_append, List.nil_append, List.cons_append, List.append_assoc]
          | ok reading =>
            refine course_of_eq (.read haddress hcreate hconnect hexecute hreading) ?_
            simp only [finish, Journal.ofEvents, Journal.mk_append, List.nil_append,
              List.cons_append, List.append_assoc]

end Probe

end SqlGauge
