import SqlGauge.Proofs.Check.Course

/-!
# What a check asks of the database, and in which order

`Word` lists the words that the events of a check may form, one for each exit, with what it takes to
leave there. In the last one a statement was executed, and `Pulls` says how many rows are pulled of
its result.

Each word is `Disciplined`: a statement is sent once at most, the rows are numbered from one on, no
row is pulled after the cursor was closed, and an executed statement is followed by exactly one
release of everything, in its order. The main statement is `Probe.trace_run`.
-/

namespace SqlGauge

/-! ## Rows -/

/-- How many rows are pulled of the result of a statement. Without columns there are none; a first
row without a number is the only one; else the rows are pulled to their end, or up to the first one
that cannot be written. -/
inductive Pulls (unquote : Bool) (database : Database) : Nat → Prop where
  | none (columns : database.columns = []) : Pulls unquote database 0
  | first {row : List Cell} {rest : List (List Cell)} {trouble : Trouble}
      (columns : database.columns ≠ []) (rows : database.readableRows = row :: rest)
      (bad : Measurement.ofRow unquote .tuple row = .error trouble) : Pulls unquote database 1
  | all (columns : database.columns ≠ [])
      (good : ∀ row ∈ database.readableRows.head?,
        ∃ value, Measurement.ofRow unquote .tuple row = .ok value)
      (writable : ∀ row ∈ database.readableRows, Cell.Writable row) :
      Pulls unquote database database.readableRows.length
  | broken {first row : List Cell} {before after : List (List Cell)} {value : Binary64}
      (columns : database.columns ≠ [])
      (rows : database.readableRows = first :: before ++ row :: after)
      (good : Measurement.ofRow unquote .tuple first = .ok value)
      (writable : ∀ earlier ∈ before, Cell.Writable earlier) (bad : ¬ Cell.Writable row) :
      Pulls unquote database (before.length + 2)

theorem Database.cursor_rows_of_columns {database : Database} (h : database.columns ≠ []) :
    database.cursor.rows = database.readableRows := by
  unfold Database.cursor
  exact if_neg h

/-- Measuring pulls that many rows. -/
theorem pulls_measured (unquote : Bool) (database : Database) :
    Pulls unquote database (database.measured unquote).cursor.pulled := by
  unfold Database.measured
  by_cases hcolumns : database.columns = []
  · rw [Cursor.measure_of_columns_eq_nil unquote hcolumns]
    exact .none hcolumns
  have hcursor := Database.cursor_rows_of_columns hcolumns
  cases hrows : database.readableRows with
  | nil =>
    rw [hrows] at hcursor
    rw [(Cursor.measure_of_rows_eq_nil unquote hcolumns hcursor).2]
    have all := @Pulls.all unquote database hcolumns (by simp [hrows]) (by simp [hrows])
    rw [hrows] at all
    exact all
  | cons first further =>
    rw [hrows] at hcursor
    cases hfirst : Measurement.ofRow unquote .tuple first with
    | error trouble =>
      rw [(Cursor.measure_bad hcolumns hcursor hfirst).2]
      exact .first hcolumns hrows hfirst
    | ok value =>
      rw [(Cursor.measure_good hcolumns hcursor hfirst).2]
      have hwritable := (Measurement.ofRow_eq_ok_iff.mp hfirst).1
      -- the rows after the first one are drained: to their end, or to one that cannot be written
      rcases Cell.writable_or_first_unwritable further with
        hall | ⟨before, row, after, rfl, hbefore, hrow⟩
      · have hcount : database.cursor.pulled + 1 + further.length =
            database.readableRows.length := by
          rw [hrows, List.length_cons]
          exact Nat.add_comm 1 further.length
        rw [(Cursor.drainRows_writable _ hall).2, hcount]
        refine .all hcolumns (by simp [hrows, hfirst]) ?_
        rw [hrows]
        exact List.forall_mem_cons.mpr ⟨hwritable, hall⟩
      · have hcount : database.cursor.pulled + 1 + (before.length + 1) = before.length + 2 :=
          Nat.add_comm 1 (before.length + 1)
        rw [(Cursor.drainRows_unwritable _ hbefore hrow).2, hcount]
        exact .broken hcolumns hrows hfirst hbefore hrow

/-! ## Words -/

/-- The words that the events of a check may form, by how far it gets. -/
inductive Word (settings : Settings) (database : Database) : List Event → Prop where
  | unaddressed {trouble : Trouble} (address : Session.opening settings = .error trouble) :
      Word settings database []
  | uncreated {event : Event} {trouble : Trouble} (address : Session.opening settings = .ok event)
      (create : database.createFault = some trouble) : Word settings database [event]
  | unconnected {event : Event} {trouble : Trouble}
      (address : Session.opening settings = .ok event) (create : database.createFault = none)
      (connect : database.connectFault = some trouble) :
      Word settings database [event, .connect, .dispose]
  | unexecuted {event : Event} {trouble : Trouble}
      (address : Session.opening settings = .ok event) (create : database.createFault = none)
      (connect : database.connectFault = none) (execute : database.executeFault = some trouble) :
      Word settings database (event :: .connect :: (Session.executeEvents settings
        ++ ((if trouble.isDatabase then [.closeConnection] else []) ++ [.dispose])))
  | executed {event : Event} {count : Nat} (address : Session.opening settings = .ok event)
      (create : database.createFault = none) (connect : database.connectFault = none)
      (execute : database.executeFault = none) (pulls : Pulls settings.unquote database count) :
      Word settings database (event :: .connect :: (Session.executeEvents settings
        ++ (Database.rowEvents count ++ [.closeCursor, .closeConnection, .dispose])))

/-- The events of a check form one of the words. -/
theorem word_check (settings : Settings) (thresholds : Thresholds) (database : Database) :
    Word settings database (Probe.check settings thresholds database).journal.events := by
  have course := Probe.course_check settings thresholds database
  generalize Probe.check settings thresholds database = checked at course ⊢
  cases course with
  | unaddressed address => exact .unaddressed address
  | uncreated address create => exact .uncreated address create
  | unconnected address create connect => exact .unconnected address create connect
  | unexecuted address create connect execute =>
    exact .unexecuted address create connect execute
  | unread address create connect execute reading =>
    exact .executed address create connect execute (pulls_measured _ _)
  | read address create connect execute result =>
    exact .executed address create connect execute (pulls_measured _ _)

/-! ## Discipline -/

namespace Event

/-- Whether a statement is sent. -/
def isExecute : Event → Bool
  | execute _ _ => true
  | _ => false

/-- Whether something is released. -/
def isRelease : Event → Bool
  | closeCursor => true
  | closeConnection => true
  | dispose => true
  | _ => false

/-- The number of the row that is pulled. -/
def rowNumber? : Event → Option Nat
  | row number => some number
  | _ => none

end Event

/-- The events respect what is held: nothing is sent twice, rows are pulled one after the other and
only while the cursor is open, and what an executed statement holds is released once and in its
order. -/
structure Disciplined (database : Database) (events : List Event) : Prop where
  sentOnce : events.countP Event.isExecute ≤ 1
  numbered : ∃ count, events.filterMap Event.rowNumber? = List.range' 1 count
  openCursor : events.Pairwise fun earlier later =>
    earlier = .closeCursor → later.rowNumber? = none
  released : (∃ event ∈ events, event.isExecute) → database.executeFault = none →
    events.filter Event.isRelease = [.closeCursor, .closeConnection, .dispose]

theorem Event.of_isRelease {event : Event} (h : event.isRelease = true) :
    event.isExecute = false ∧ event.rowNumber? = none := by
  cases event <;> first | exact ⟨rfl, rfl⟩ | exact absurd h Bool.false_ne_true

/-- The events send one statement and neither pull rows nor release anything. -/
structure Sends (events : List Event) : Prop where
  sent : events.countP Event.isExecute = 1
  rows : events.filterMap Event.rowNumber? = []
  release : events.filter Event.isRelease = []

/-- Up to its statement, a session does nothing but send it. -/
theorem sends_session (settings : Settings) :
    Sends (.connect :: Session.executeEvents settings) := by
  unfold Session.executeEvents
  split <;> exact ⟨rfl, rfl, rfl⟩

theorem Sends.cons_opening {settings : Settings} {event : Event} {events : List Event}
    (h : Sends events) (address : Session.opening settings = .ok event) :
    Sends (event :: events) := by
  obtain ⟨text, options, rfl⟩ := Session.exists_openEngine_of_opening address
  exact ⟨h.sent, h.rows, h.release⟩

theorem Sends.notMem {events : List Event} (h : Sends events) {event : Event}
    (hrelease : event.isRelease = true) : event ∉ events := fun hevent =>
  List.filter_eq_nil_iff.mp h.release event hevent hrelease

namespace Database

theorem filterMap_rowEvents (count : Nat) :
    (rowEvents count).filterMap Event.rowNumber? = List.range' 1 count := by
  unfold rowEvents
  rw [List.filterMap_map]
  exact List.filterMap_some

/-- Pulling rows neither sends nor releases anything. -/
theorem of_mem_rowEvents {count : Nat} {event : Event} (h : event ∈ rowEvents count) :
    event.isExecute = false ∧ event.isRelease = false := by
  obtain ⟨number, _, rfl⟩ := List.mem_map.mp h
  exact ⟨rfl, rfl⟩

theorem notMem_rowEvents {event : Event} (hrelease : event.isRelease = true) (count : Nat) :
    event ∉ rowEvents count := by
  intro h
  rw [(of_mem_rowEvents h).2] at hrelease
  exact Bool.false_ne_true hrelease

end Database

/-- A statement, the rows of its result and a release are disciplined together, if an executed
statement is followed by the whole release. -/
theorem disciplined_append {database : Database} {front back : List Event} {count : Nat}
    (hfront : Sends front) (hback : ∀ event ∈ back, event.isRelease = true)
    (hwhole : database.executeFault = none →
      back = [.closeCursor, .closeConnection, .dispose]) :
    Disciplined database (front ++ (Database.rowEvents count ++ back)) := by
  have hrows := fun event (h : event ∈ Database.rowEvents count) => Database.of_mem_rowEvents h
  refine ⟨?_, ⟨count, ?_⟩, ?_, fun _ hexecute => ?_⟩
  · have hsent : ∀ event ∈ Database.rowEvents count ++ back, ¬ event.isExecute = true := by
      intro event hevent
      rcases List.mem_append.mp hevent with h | h
      · rw [(hrows event h).1]
        exact Bool.false_ne_true
      · rw [(Event.of_isRelease (hback event h)).1]
        exact Bool.false_ne_true
    have hcount : (front ++ (Database.rowEvents count ++ back)).countP Event.isExecute = 1 := by
      rw [List.countP_append, hfront.sent, List.countP_eq_zero.mpr hsent]
    exact Nat.le_of_eq hcount
  · have hlast : back.filterMap Event.rowNumber? = [] :=
      List.filterMap_eq_nil_iff.mpr fun event h => (Event.of_isRelease (hback event h)).2
    rw [List.filterMap_append, List.filterMap_append, hfront.rows, hlast, List.nil_append,
      List.append_nil, Database.filterMap_rowEvents]
  · -- only the release closes the cursor, and after it nothing but releases comes
    have hquiet : Event.closeCursor ∉ front ++ Database.rowEvents count := by
      rw [List.mem_append, not_or]
      exact ⟨hfront.notMem rfl, Database.notMem_rowEvents rfl count⟩
    rw [← List.append_assoc, List.pairwise_append]
    refine ⟨?_, ?_, ?_⟩
    · exact List.pairwise_of_forall_mem_list fun _ h _ _ heq => absurd (heq ▸ h) hquiet
    · exact List.pairwise_of_forall_mem_list fun _ _ later h _ =>
        (Event.of_isRelease (hback later h)).2
    · exact fun _ h _ _ heq => absurd (heq ▸ h) hquiet
  · have hkept : (Database.rowEvents count).filter Event.isRelease = [] := by
      rw [List.filter_eq_nil_iff]
      intro event h
      rw [(hrows event h).2]
      exact Bool.false_ne_true
    rw [List.filter_append, List.filter_append, hfront.release, hkept, List.nil_append,
      List.nil_append, hwhole hexecute]
    rfl

/-- Every word is disciplined. -/
theorem Word.disciplined {settings : Settings} {database : Database} {events : List Event}
    (word : Word settings database events) : Disciplined database events := by
  cases word with
  | unaddressed address => exact ⟨Nat.zero_le 1, ⟨0, rfl⟩, .nil, by simp⟩
  | uncreated address create =>
    obtain ⟨text, options, rfl⟩ := Session.exists_openEngine_of_opening address
    exact ⟨Nat.zero_le 1, ⟨0, rfl⟩, by simp, by simp [Event.isExecute]⟩
  | unconnected address create connect =>
    obtain ⟨text, options, rfl⟩ := Session.exists_openEngine_of_opening address
    exact ⟨Nat.zero_le 1, ⟨0, rfl⟩, by simp, by simp [Event.isExecute]⟩
  | @unexecuted _ trouble address create connect execute =>
    -- a refused statement has no rows, and it was not executed, so no whole release is due
    refine @disciplined_append database _ _ 0 ((sends_session settings).cons_opening address)
      ?_ fun h => ?_
    · cases trouble.isDatabase <;> simp [Event.isRelease]
    · rw [execute] at h
      cases h
  | executed address create connect execute pulls =>
    exact disciplined_append ((sends_session settings).cons_opening address)
      (by simp [Event.isRelease]) fun _ => rfl

/-- The events of a whole check form one of the words, and they are disciplined. -/
theorem Probe.trace_run {probe : Probe} {thresholds : Thresholds}
    (accepted : Thresholds.ofSettings probe.settings = .ok thresholds) (database : Database) :
    Word probe.settings database (probe.run database).1.journal.events ∧
      Disciplined database (probe.run database).1.journal.events := by
  rw [run_of_accepted accepted]
  have word := word_check probe.settings thresholds database
  exact ⟨word, word.disciplined⟩

/-- The rows break off, and the connection cannot be closed. -/
theorem Probe.trace_run_broken_off :
    let settings : Settings := { query := "SELECT 1" }
    let database : Database :=
      { columns := ["1"], rows := [[.text "1"], [.null]],
        rowFault := some (2, .fault ⟨.database, "gone"⟩),
        connectionCloseFault := some (.fault ⟨.other, "gone"⟩) }
    Thresholds.ofSettings settings = .ok ⟨.unset, .unset⟩ ∧
      Word settings database (run { settings } database).1.journal.events ∧
      Disciplined database (run { settings } database).1.journal.events :=
  ⟨rfl, @trace_run { settings := { query := "SELECT 1" } } ⟨.unset, .unset⟩ rfl _⟩

end SqlGauge
