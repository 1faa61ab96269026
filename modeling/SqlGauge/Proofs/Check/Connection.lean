import SqlGauge.Proofs.Check.Trace

/-!
# Which connections are closed

A connection that came about is closed once, by the check or by whoever reads the result of its
statement, with one exception: if the statement fails by something that the database layer did not
raise, nobody closes it (`Database.abandons`). `Probe.count_closeConnection_run` counts the closings of
whole checks and of sessions whose result is closed after any number of pulls (`Session.visit`).
-/

namespace SqlGauge

namespace Database

/-- The statement fails by something that the database layer did not raise. -/
def abandons (database : Database) : Bool :=
  database.executeFault.any fun trouble => !trouble.isDatabase

/-- A connection was asked for and came about. -/
def Connected (database : Database) (events : List Event) : Prop :=
  .connect ∈ events ∧ database.connectFault = none

instance (database : Database) (events : List Event) : Decidable (database.Connected events) :=
  inferInstanceAs (Decidable (_ ∧ _))

/-- How often the connection is closed: once if it came about and is not abandoned. -/
def closings (database : Database) (events : List Event) : Nat :=
  if database.Connected events ∧ database.abandons = false then 1 else 0

theorem closings_of_notMem (database : Database) {events : List Event} (h : .connect ∉ events) :
    database.closings events = 0 :=
  if_neg fun hconnected => h hconnected.1.1

theorem closings_of_connectFault {database : Database} {trouble : Trouble}
    (h : database.connectFault = some trouble) (events : List Event) :
    database.closings events = 0 := by
  refine if_neg ?_
  rintro ⟨⟨_, hconnect⟩, _⟩
  rw [h] at hconnect
  cases hconnect

theorem closings_of_executeFault {database : Database} {events : List Event} {trouble : Trouble}
    (hmem : .connect ∈ events) (hconnect : database.connectFault = none)
    (hexecute : database.executeFault = some trouble) :
    database.closings events = if trouble.isDatabase then 1 else 0 := by
  unfold closings abandons
  rw [hexecute, Option.any_some]
  cases trouble.isDatabase with
  | true => exact if_pos ⟨⟨hmem, hconnect⟩, rfl⟩
  | false =>
    refine if_neg ?_
    rintro ⟨_, habandons⟩
    cases habandons

theorem closings_of_executed {database : Database} {events : List Event}
    (hmem : .connect ∈ events) (hconnect : database.connectFault = none)
    (hexecute : database.executeFault = none) : database.closings events = 1 := by
  unfold closings abandons
  rw [hexecute]
  exact if_pos ⟨⟨hmem, hconnect⟩, rfl⟩

end Database

/-- Sending a statement and reading its rows closes nothing. -/
theorem count_closeConnection_append {front : List Event} (hfront : Sends front) (count : Nat)
    (back : List Event) :
    (front ++ (Database.rowEvents count ++ back)).count .closeConnection =
      back.count .closeConnection := by
  have hrows : (Database.rowEvents count).count .closeConnection = 0 :=
    List.count_eq_zero.mpr (Database.notMem_rowEvents rfl count)
  rw [List.count_append, List.count_append, List.count_eq_zero.mpr (hfront.notMem rfl), hrows,
    Nat.zero_add, Nat.zero_add]

/-! ## Checks -/

theorem Word.count_closeConnection {settings : Settings} {database : Database}
    {events : List Event} (word : Word settings database events) :
    events.count .closeConnection = database.closings events := by
  cases word with
  | unaddressed address => exact (database.closings_of_notMem List.not_mem_nil).symm
  | uncreated address create =>
    obtain ⟨text, options, rfl⟩ := Session.exists_openEngine_of_opening address
    rw [database.closings_of_notMem (by simp)]
    rfl
  | unconnected address create connect =>
    obtain ⟨text, options, rfl⟩ := Session.exists_openEngine_of_opening address
    rw [Database.closings_of_connectFault connect]
    rfl
  | @unexecuted _ trouble address create connect execute =>
    have hsends := (sends_session settings).cons_opening address
    rw [Database.closings_of_executeFault (by simp) connect execute]
    refine (count_closeConnection_append hsends 0 _).trans ?_
    cases trouble.isDatabase <;> rfl
  | executed address create connect execute pulls =>
    have hsends := (sends_session settings).cons_opening address
    rw [Database.closings_of_executed (by simp) connect execute]
    exact count_closeConnection_append hsends _ _

/-! ## Sessions -/

/-- The events of a session whose result is closed after some pulls. -/
def Session.visit (settings : Settings) (database : Database) (count : Nat) : List Event :=
  let session := query settings database
  session.journal.events ++
    match session.result with
    | .error _ => []
    | .ok cursor => cursor.pullsTo (cursor.pulls count) ++ (cursor.pulls count).close.1.events

theorem Session.count_closeConnection_visit (settings : Settings) (database : Database)
    (count : Nat) :
    (visit settings database count).count .closeConnection =
      database.closings (visit settings database count) := by
  have hsends := sends_session settings
  unfold visit
  cases hconnect : database.connectFault with
  | some trouble =>
    rw [Database.closings_of_connectFault hconnect, query_of_connectFault settings hconnect]
    rfl
  | none =>
    cases hexecute : database.executeFault with
    | some trouble =>
      rw [query_of_executeFault settings hconnect hexecute]
      rw [Database.closings_of_executeFault (by simp [Journal.ofEvents]) hconnect hexecute]
      simp only [Journal.ofEvents, List.append_nil]
      refine (count_closeConnection_append hsends 0 _).trans ?_
      cases trouble.isDatabase <;> rfl
    | none =>
      rw [query_of_executed settings hconnect hexecute]
      rw [Database.closings_of_executed (by simp [Journal.ofEvents]) hconnect hexecute]
      -- what closing does is the same however many rows were pulled
      simp only [(Cursor.advanced_pulls count database.cursor).close_eq]
      exact count_closeConnection_append hsends (Cursor.pulls count database.cursor).pulled
        [.closeCursor, .closeConnection]

/-- Checks, and sessions whose result is closed, close the connection once if it came about and the
statement did not fail by something that the database layer did not raise. Else they never close
it. -/
theorem Probe.count_closeConnection_run (probe : Probe) (database : Database) :
    (probe.run database).1.journal.events.count .closeConnection =
        database.closings (probe.run database).1.journal.events ∧
      ∀ count, (Session.visit probe.settings database count).count .closeConnection =
        database.closings (Session.visit probe.settings database count) := by
  refine ⟨?_, Session.count_closeConnection_visit probe.settings database⟩
  cases haccepted : Thresholds.ofSettings probe.settings with
  | error failure =>
    rw [run_of_rejected haccepted]
    exact (database.closings_of_notMem List.not_mem_nil).symm
  | ok thresholds =>
    rw [run_of_accepted haccepted]
    exact (word_check probe.settings thresholds database).count_closeConnection

/-- A connection whose statement fails by no error of the database layer is left open. -/
theorem Probe.connection_left_open :
    let settings : Settings := { query := "SELECT 1" }
    let database : Database := { executeFault := some (.fault ⟨.other, "boom"⟩) }
    let events := (run { settings } database).1.journal.events
    database.Connected events ∧ events.count .closeConnection = 0 ∧
      database.Connected (Session.visit settings database 0) ∧
        (Session.visit settings database 0).count .closeConnection = 0 := by
  decide +kernel

end SqlGauge
