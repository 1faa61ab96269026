import SqlGauge.Proofs.Check.Trace
import SqlGauge.Proofs.Check.Verdict

/-!
# What a failed check is blamed on

Several things may go wrong in one check. `Probe.fired` lists them in the order in which they do, and
`blamed` gives the failure that is reported of such a list: that of the first one, to which later
trouble with the release is joined. There are two exceptions, `displacing?`: trouble with closing the
connection takes the place of the refusal of the statement, and that of trouble with closing the
cursor.

The main statement is `Probe.failure_run`. It says when the failure tells what went wrong first.
-/

namespace SqlGauge

/-! ## What goes wrong -/

/-- Where something goes wrong in a check. -/
inductive Source where
  | opening
  | create
  | connect
  | execute
  | reading
  | closeCursor
  | closeConnection
  | dispose
deriving DecidableEq

/-- Something that went wrong, and where. -/
structure Firing where
  source : Source
  trouble : Trouble
deriving DecidableEq

/-- What went wrong at some place, if anything did. -/
def Source.fire (source : Source) (trouble : Option Trouble) : List Firing :=
  trouble.toList.map (Firing.mk source)

theorem Source.of_mem_fire {source : Source} {met : Option Trouble} {firing : Firing}
    (h : firing ∈ source.fire met) : firing.source = source ∧ met = some firing.trouble := by
  obtain ⟨trouble, hmet, rfl⟩ := List.mem_map.mp h
  exact ⟨rfl, Option.mem_toList.mp hmet⟩

/-- What something was broken off by. -/
def error? {ε α : Type} : Except ε α → Option ε
  | .error error => some error
  | .ok _ => none

/-- What goes wrong at an event. Before the cursor is closed, the result is read. -/
def Database.firings (unquote : Bool) (database : Database) : Event → List Firing
  | .openEngine _ _ => Source.create.fire database.createFault
  | .connect => Source.connect.fire database.connectFault
  | .execute _ _ => Source.execute.fire database.executeFault
  | .closeCursor =>
    Source.reading.fire (error? (database.measured unquote).result)
      ++ Source.closeCursor.fire database.cursorCloseFault
  | .closeConnection => Source.closeConnection.fire database.connectionCloseFault
  | .dispose => Source.dispose.fire database.disposeFault
  | _ => []

/-- What goes wrong in a check with these events, in the order in which it does. -/
def Session.fired (settings : Settings) (database : Database) (events : List Event) :
    List Firing :=
  Source.opening.fire (error? (opening settings))
    ++ events.flatMap (database.firings settings.unquote)

theorem Database.flatMap_firings_rowEvents (unquote : Bool) (database : Database) (count : Nat) :
    (rowEvents count).flatMap (database.firings unquote) = [] := by
  rw [List.flatMap_eq_nil_iff]
  intro event h
  obtain ⟨number, _, rfl⟩ := List.mem_map.mp h
  rfl

theorem Session.flatMap_firings_executeEvents (settings : Settings) (unquote : Bool)
    (database : Database) :
    (executeEvents settings).flatMap (database.firings unquote) =
      Source.execute.fire database.executeFault := by
  unfold executeEvents
  split
  · exact List.append_nil _
  · exact List.append_nil _

/-! ## What is owed to it -/

/-- The failure of a check in which only this goes wrong, unless it is met at the very end. -/
def Firing.failure (settings : Settings) : Firing → Failure
  | ⟨.create, trouble⟩ => (Session.whileOpening trouble).reported
  | ⟨.connect, trouble⟩ =>
    (if trouble.isDatabase then Session.aboutStatement "cannot connect" settings.query trouble
      else trouble).reported
  | ⟨.execute, trouble⟩ =>
    (if trouble.isDatabase then Session.aboutStatement "query failed" settings.query trouble
      else trouble).reported
  | ⟨.reading, trouble⟩ => trouble.whileReading
  | ⟨.closeCursor, trouble⟩ => trouble.whileReleasing
  | ⟨.closeConnection, trouble⟩ => trouble.whileReleasing
  | ⟨_, trouble⟩ => trouble.reported

/-- The last trouble that was met before the database was let go. -/
def lastRecord? (firings : List Firing) : Option Record :=
  (firings.filter (·.source ≠ .dispose)).getLast?.map (·.trouble.record)

/-- The failure owed to something, with later trouble joined to it. -/
def Firing.joined (settings : Settings) (first : Firing) (later : List Firing) : Failure :=
  { first.failure settings with
    released := (lastRecord? later).or (first.failure settings).released }

/-- The failure that takes the place of the first one: there is one if closing the connection fails
right after the statement, or right after closing the cursor. -/
def displacing? : List Firing → Option Failure
  | ⟨.execute, _⟩ :: ⟨.closeConnection, later⟩ :: _ => some later.reported
  | ⟨.closeCursor, _⟩ :: ⟨.closeConnection, later⟩ :: _ => some later.whileReleasing
  | _ => none

/-- Trouble with closing the connection hides what went wrong before: the database layer refused the
statement, or the cursor of a result that had been read could not be closed. -/
structure Displaced (settings : Settings) (database : Database) : Prop where
  address : ∃ event, Session.opening settings = .ok event
  create : database.createFault = none
  connect : database.connectFault = none
  connectionClose : database.connectionCloseFault.isSome
  earlier :
    match database.executeFault with
    | some trouble => trouble.isDatabase
    | none => error? (database.measured settings.unquote).result = none ∧
        database.cursorCloseFault.isSome

/-- The failure of a check in which these things go wrong. Trouble with letting the database go is
none. -/
def blamed (settings : Settings) : List Firing → Option Failure
  | [] => none
  | first :: later =>
    if first.source = .dispose then none
    else some ((displacing? (first :: later)).getD (first.joined settings later))

/-! ## Telling -/

/-- The failure is the trouble itself, or its text contains that of the trouble. -/
def Failure.Tells (failure : Failure) (trouble : Trouble) : Prop :=
  (∃ own, trouble = .failure own ∧ failure.cause = own.cause) ∨
    trouble.message.toList <:+: failure.message.toList

/-- The failure is owed to what went wrong: it tells it, and if the database layer refused the
statement it is about the query. -/
structure Owed (settings : Settings) (first : Firing) (failure : Failure) : Prop where
  tells : failure.Tells first.trouble
  refused : first.source = .execute → first.trouble.isDatabase →
    failure.cause = (first.failure settings).cause

/-- A failure is owed to what went wrong first, unless that is the letting go of the database. -/
def KeepsFirst (settings : Settings) (firings : List Firing) (failure : Option Failure) : Prop :=
  ∀ first ∈ firings.head?,
    if first.source = .dispose then failure = none
    else ∃ told, failure = some told ∧ Owed settings first told

/-- A letter that is in the text of the first fault only shows that the fault is not told. -/
theorem not_keepsFirst {settings : Settings} {firings : List Firing} {source : Source}
    {fault : Fault} {failure : Failure} {letter : Char} (hsource : source ≠ .dispose)
    (hfirst : firings.head? = some ⟨source, .fault fault⟩) (h : letter ∈ fault.message.toList)
    (h' : letter ∉ failure.message.toList) : ¬ KeepsFirst settings firings (some failure) := by
  intro hkeeps
  have hfault := hkeeps _ hfirst
  rw [if_neg hsource] at hfault
  obtain ⟨told, htold, howed⟩ := hfault
  cases htold
  rcases howed.tells with ⟨_, hown, _⟩ | hcontained
  · cases hown
  · exact h' (hcontained.subset h)

/-- The wording of a cause is part of the wording of its failure. -/
theorem Failure.cause_infix_message (failure : Failure) :
    failure.cause.message.toList <:+: failure.message.toList := by
  unfold message
  simp only [String.toList_append]
  refine List.IsInfix.trans ?_ (List.prefix_append _ _).isInfix
  split
  · exact List.infix_rfl
  · simp only [String.toList_append, List.append_assoc]
    exact (List.prefix_append _ _).isInfix

theorem Failure.tells_of_cause {failure : Failure} {front : String} {trouble : Trouble}
    (h : failure.cause.message = front ++ trouble.message) : failure.Tells trouble := by
  have hcause := failure.cause_infix_message
  rw [h, String.toList_append] at hcause
  exact .inr ((List.suffix_append _ _).isInfix.trans hcause)

theorem Trouble.tells_reported {failure : Failure} {trouble : Trouble}
    (h : failure.cause = trouble.reported.cause) : failure.Tells trouble := by
  cases trouble with
  | failure own => exact .inl ⟨own, rfl, h⟩
  | fault _ => exact Failure.tells_of_cause (congrArg Cause.message h)
  | refusal _ => exact Failure.tells_of_cause (congrArg Cause.message h)

theorem Trouble.tells_whileReading {failure : Failure} {trouble : Trouble}
    (h : failure.cause = trouble.whileReading.cause) : failure.Tells trouble := by
  cases trouble with
  | failure own => exact .inl ⟨own, rfl, h⟩
  | fault _ => exact Failure.tells_of_cause (congrArg Cause.message h)
  | refusal _ => exact Failure.tells_of_cause (congrArg Cause.message h)

/-- What is owed to something tells it, whatever is joined to it. -/
theorem Firing.tells_failure (settings : Settings) (firing : Firing) {failure : Failure}
    (h : failure.cause = (firing.failure settings).cause) : failure.Tells firing.trouble := by
  obtain ⟨source, trouble⟩ := firing
  -- connecting and executing differ in the complaint only
  have hstatement : ∀ complaint,
      failure.cause = (if trouble.isDatabase
        then Session.aboutStatement complaint settings.query trouble
        else trouble).reported.cause → failure.Tells trouble := by
    intro complaint h
    split at h
    · exact Failure.tells_of_cause (congrArg Cause.message h)
    · exact Trouble.tells_reported h
  cases source with
  | opening => exact Trouble.tells_reported h
  | create =>
    simp only [Firing.failure, Session.whileOpening] at h
    split at h
    · exact Failure.tells_of_cause (congrArg Cause.message h)
    · exact Trouble.tells_reported h
  | connect => exact hstatement "cannot connect" h
  | execute => exact hstatement "query failed" h
  | reading => exact Trouble.tells_whileReading h
  | closeCursor => exact Failure.tells_of_cause (congrArg Cause.message h)
  | closeConnection => exact Failure.tells_of_cause (congrArg Cause.message h)
  | dispose => exact Trouble.tells_reported h

theorem Firing.owed_joined (settings : Settings) (first : Firing) (later : List Firing) :
    Owed settings first (first.joined settings later) :=
  ⟨first.tells_failure settings rfl, fun _ _ => rfl⟩

/-- What is blamed is owed to what went wrong first, just if what takes its place is. -/
theorem keepsFirst_blamed_iff {settings : Settings} {firings : List Firing} :
    KeepsFirst settings firings (blamed settings firings) ↔
      ∀ other ∈ displacing? firings, ∀ first ∈ firings.head?, Owed settings first other := by
  cases firings with
  | nil => exact iff_of_true (fun _ h => nomatch h) (fun _ h => nomatch h)
  | cons first later =>
    simp only [KeepsFirst, blamed, List.head?_cons, Option.mem_some_iff, forall_eq']
    -- nothing takes the place of trouble with letting the database go, and nothing has to
    by_cases hdispose : first.source = .dispose
    · have hnone : displacing? (first :: later) = none := by
        obtain ⟨source, trouble⟩ := first
        cases hdispose
        rfl
      simp only [if_pos hdispose, hnone]
      exact iff_of_true trivial (fun _ h => nomatch h)
    · simp only [if_neg hdispose, Option.some.injEq, exists_eq_left']
      cases displacing? (first :: later) with
      | none => exact iff_of_true (first.owed_joined settings later) (fun _ h => nomatch h)
      | some other => simp only [Option.getD_some, Option.mem_some_iff, forall_eq']

/-! ## Checks -/

/-- What is made of a reading and its release is what is blamed on them. -/
theorem error?_settle (settings : Settings) (result : Except Trouble Reading)
    (cursor connection dispose : Option Trouble) :
    error? (Cursor.settle result (connection.or cursor)) =
      blamed settings (Source.reading.fire (error? result) ++ Source.closeCursor.fire cursor
        ++ (Source.closeConnection.fire connection ++ Source.dispose.fire dispose)) := by
  cases result with
  | error trouble => cases cursor <;> cases connection <;> cases dispose <;> rfl
  | ok reading => cases cursor <;> cases connection <;> cases dispose <;> rfl

/-- Trouble with closing the connection takes the place of the refusal of a statement. -/
theorem blamed_refused (settings : Settings) (trouble : Trouble)
    (connection dispose : Option Trouble) :
    blamed settings (⟨.execute, trouble⟩ :: (Source.closeConnection.fire connection
        ++ Source.dispose.fire dispose)) =
      some (connection.elim (Firing.failure settings ⟨.execute, trouble⟩) Trouble.reported) := by
  cases connection <;> cases dispose <;> rfl

theorem isSome_displacing?_refused (trouble : Trouble) (connection dispose : Option Trouble) :
    (displacing? (⟨.execute, trouble⟩ :: (Source.closeConnection.fire connection
        ++ Source.dispose.fire dispose))).isSome = connection.isSome := by
  cases connection <;> cases dispose <;> rfl

theorem isSome_displacing?_read (reading cursor connection dispose : Option Trouble) :
    (displacing? (Source.reading.fire reading ++ Source.closeCursor.fire cursor
        ++ (Source.closeConnection.fire connection ++ Source.dispose.fire dispose))).isSome =
      (reading.isNone && cursor.isSome && connection.isSome) := by
  cases reading <;> cases cursor <;> cases connection <;> cases dispose <;> rfl

/-- Trouble with letting the database go changes nothing. -/
theorem blamed_dispose (settings : Settings) {source : Source} (h : source ≠ .dispose)
    (trouble : Trouble) (dispose : Option Trouble) :
    blamed settings (⟨source, trouble⟩ :: Source.dispose.fire dispose) =
      some (Firing.failure settings ⟨source, trouble⟩) := by
  cases source <;> cases dispose <;> first | rfl | exact absurd rfl h

namespace Session

variable {settings : Settings} {database : Database} {event : Event}

theorem fired_of_opening (address : opening settings = .ok event) (events : List Event) :
    fired settings database (event :: events) =
      Source.create.fire database.createFault
        ++ events.flatMap (database.firings settings.unquote) := by
  obtain ⟨text, options, rfl⟩ := exists_openEngine_of_opening address
  unfold fired
  rw [address]
  rfl

theorem fired_of_connect (address : opening settings = .ok event)
    (create : database.createFault = none) (events : List Event) :
    fired settings database (event :: .connect :: events) =
      Source.connect.fire database.connectFault
        ++ events.flatMap (database.firings settings.unquote) := by
  rw [fired_of_opening address, create]
  rfl

theorem fired_of_execute (address : opening settings = .ok event)
    (create : database.createFault = none) (connect : database.connectFault = none)
    (events : List Event) :
    fired settings database (event :: .connect :: (executeEvents settings ++ events)) =
      Source.execute.fire database.executeFault
        ++ events.flatMap (database.firings settings.unquote) := by
  rw [fired_of_connect address create, connect, List.flatMap_append,
    flatMap_firings_executeEvents]
  rfl

/-- Closing the connection is tried only after the database layer refused the statement. -/
theorem fired_of_refused {trouble : Trouble} (address : opening settings = .ok event)
    (create : database.createFault = none) (connect : database.connectFault = none)
    (execute : database.executeFault = some trouble) :
    fired settings database (event :: .connect :: (executeEvents settings
        ++ ((if trouble.isDatabase then [.closeConnection] else []) ++ [.dispose]))) =
      ⟨.execute, trouble⟩ :: (Source.closeConnection.fire
          (if trouble.isDatabase then database.connectionCloseFault else none)
        ++ Source.dispose.fire database.disposeFault) := by
  rw [fired_of_execute address create connect, execute, List.flatMap_append,
    List.flatMap_singleton]
  cases trouble.isDatabase with
  | false => rfl
  | true =>
    rw [if_pos rfl, if_pos rfl, List.flatMap_singleton]
    rfl

theorem fired_of_read (address : opening settings = .ok event)
    (create : database.createFault = none) (connect : database.connectFault = none)
    (execute : database.executeFault = none) (count : Nat) :
    fired settings database (event :: .connect :: (executeEvents settings
        ++ (Database.rowEvents count ++ [.closeCursor, .closeConnection, .dispose]))) =
      Source.reading.fire (error? (database.measured settings.unquote).result)
        ++ Source.closeCursor.fire database.cursorCloseFault
        ++ (Source.closeConnection.fire database.connectionCloseFault
          ++ Source.dispose.fire database.disposeFault) := by
  rw [fired_of_execute address create connect, execute, List.flatMap_append,
    Database.flatMap_firings_rowEvents]
  simp only [Source.fire, List.flatMap_cons, List.flatMap_nil, List.append_nil, Database.firings,
    Option.toList_none, List.map_nil, List.nil_append]

theorem displaced_iff_of_connected (address : opening settings = .ok event)
    (create : database.createFault = none) (connect : database.connectFault = none) :
    Displaced settings database ↔
      database.connectionCloseFault.isSome ∧
        match database.executeFault with
        | some trouble => trouble.isDatabase
        | none => error? (database.measured settings.unquote).result = none ∧
            database.cursorCloseFault.isSome := by
  constructor
  · intro h
    exact ⟨h.connectionClose, h.earlier⟩
  · rintro ⟨hclose, hearlier⟩
    exact ⟨⟨event, address⟩, create, connect, hclose, hearlier⟩

end Session

/-- There is a failure that takes the place of the first one just if closing the connection displaces
the trouble before it. -/
theorem Word.isSome_displacing?_iff {settings : Settings} {database : Database}
    {events : List Event} (word : Word settings database events) :
    (displacing? (Session.fired settings database events)).isSome ↔
      Displaced settings database := by
  cases word with
  | unaddressed address =>
    unfold Session.fired
    rw [address]
    refine iff_of_false Bool.false_ne_true ?_
    rintro ⟨⟨event, h⟩, _⟩
    cases address.symm.trans h
  | uncreated address create =>
    rw [Session.fired_of_opening address, create]
    refine iff_of_false Bool.false_ne_true fun h => ?_
    cases create.symm.trans h.create
  | unconnected address create connect =>
    rw [Session.fired_of_connect address create, connect]
    refine iff_of_false Bool.false_ne_true fun h => ?_
    cases connect.symm.trans h.connect
  | @unexecuted _ trouble address create connect execute =>
    rw [Session.fired_of_refused address create connect execute, isSome_displacing?_refused,
      Session.displaced_iff_of_connected address create connect, execute]
    show _ ↔ _ ∧ trouble.isDatabase = true
    cases trouble.isDatabase with
    | false => exact iff_of_false Bool.false_ne_true fun h => Bool.false_ne_true h.2
    | true => exact (and_iff_left rfl).symm
  | executed address create connect execute pulls =>
    rw [Session.fired_of_read address create connect execute,
      isSome_displacing?_read, Session.displaced_iff_of_connected address create connect, execute,
      Bool.and_eq_true, Bool.and_eq_true, Option.isNone_iff_eq_none]
    exact and_comm

namespace Probe

open Session

/-- A check reports the failure that is blamed on what went wrong. -/
theorem failure_check (settings : Settings) (thresholds : Thresholds) (database : Database) :
    (check settings thresholds database).report.failure =
      blamed settings
        (fired settings database (check settings thresholds database).journal.events) := by
  have course := course_check settings thresholds database
  generalize check settings thresholds database = checked at course ⊢
  cases course with
  | unaddressed address =>
    unfold fired
    rw [address]
    rfl
  | uncreated address create =>
    rw [fired_of_opening address, create]
    rfl
  | unconnected address create connect hmet =>
    rw [fired_of_connect address create, connect, hmet, List.flatMap_singleton]
    exact (@blamed_dispose settings .connect (by decide) _ _).symm
  | @unexecuted _ trouble _ address create connect execute hmet =>
    -- the failure is that of the query only while the connection can be closed
    rw [fired_of_refused address create connect execute, blamed_refused, hmet]
    show some _ = some (Option.elim _ (Trouble.reported (if trouble.isDatabase then _ else _)) _)
    cases trouble.isDatabase with
    | false => rfl
    | true => cases database.connectionCloseFault <;> rfl
  | unread address create connect execute reading =>
    rw [fired_of_read address create connect execute, ← error?_settle,
      ← Database.releaseTrouble, reading]
    rfl
  | @read _ reading address create connect execute result =>
    rw [fired_of_read address create connect execute, ← error?_settle,
      ← Database.releaseTrouble, result]
    exact (Report.judges_measured thresholds reading).failure

/-- Letting the database go fails only if the database is let go. -/
theorem of_dispose_mem_fired {settings : Settings} {database : Database} {events : List Event}
    {trouble : Trouble} (h : ⟨.dispose, trouble⟩ ∈ fired settings database events) :
    .dispose ∈ events ∧ database.disposeFault = some trouble := by
  rcases List.mem_append.mp h with hopening | hevents
  · cases (Source.of_mem_fire hopening).1
  obtain ⟨event, hevent, hfiring⟩ := List.mem_flatMap.mp hevents
  cases event with
  | dispose => exact ⟨hevent, (Source.of_mem_fire hfiring).2⟩
  | closeCursor =>
    rcases List.mem_append.mp hfiring with h | h
    · cases (Source.of_mem_fire h).1
    · cases (Source.of_mem_fire h).1
  | openEngine _ _ => cases (Source.of_mem_fire hfiring).1
  | connect => cases (Source.of_mem_fire hfiring).1
  | execute _ _ => cases (Source.of_mem_fire hfiring).1
  | closeConnection => cases (Source.of_mem_fire hfiring).1
  | _ => cases hfiring

/-- What letting the database go logs is in the log of the check. -/
theorem finish_lines_subset (settings : Settings) (thresholds : Thresholds) (database : Database)
    (h : .dispose ∈ (check settings thresholds database).journal.events) :
    (finish database).lines ⊆ (check settings thresholds database).journal.lines := by
  have course := course_check settings thresholds database
  generalize check settings thresholds database = checked at course h ⊢
  cases course with
  | unaddressed address => cases h
  | uncreated address create =>
    obtain ⟨text, options, rfl⟩ := exists_openEngine_of_opening address
    simp at h
  | unconnected address create connect hmet => exact List.subset_cons_self _ _
  | unexecuted address create connect execute hmet => exact List.subset_cons_self _ _
  | unread address create connect execute reading =>
    exact List.subset_append_of_subset_right _ (List.subset_cons_self _ _)
  | read address create connect execute result => exact List.subset_append_right _ _

/-- A check reports the failure that is blamed on what went wrong. It is owed to what went wrong
first, just if the failure that may take its place is; there is such a one just if closing the
connection displaces the trouble before it. Trouble with letting the database go is logged. -/
theorem failure_run {probe : Probe} {thresholds : Thresholds}
    (accepted : Thresholds.ofSettings probe.settings = .ok thresholds) (database : Database) :
    let checked := (probe.run database).1
    let firings := fired probe.settings database checked.journal.events
    checked.report.failure = blamed probe.settings firings ∧
      (KeepsFirst probe.settings firings checked.report.failure ↔
        ∀ other ∈ displacing? firings, ∀ first ∈ firings.head?,
          Owed probe.settings first other) ∧
      ((displacing? firings).isSome ↔ Displaced probe.settings database) ∧
      ∀ trouble, ⟨.dispose, trouble⟩ ∈ firings →
        ⟨.warning, "释放数据库引擎失败: " ++ trouble.message⟩ ∈ checked.journal.lines := by
  rw [run_of_accepted accepted]
  have hfailure := failure_check probe.settings thresholds database
  have word := word_check probe.settings thresholds database
  refine ⟨hfailure, ?_, word.isSome_displacing?_iff, ?_⟩
  · rw [hfailure]
    exact keepsFirst_blamed_iff
  · intro trouble h
    obtain ⟨hevent, hdispose⟩ := of_dispose_mem_fired h
    refine finish_lines_subset probe.settings thresholds database hevent ?_
    unfold finish
    rw [hdispose]
    exact List.mem_singleton_self _

/-- The connection cannot be closed after the statement was refused. -/
theorem failure_run_refused :
    let settings : Settings := { query := "SELECT 1" }
    let database : Database :=
      { executeFault := some (.fault ⟨.database, "boom"⟩)
        connectionCloseFault := some (.fault ⟨.other, "gone"⟩) }
    let checked := (run { settings } database).1
    let firings := fired settings database checked.journal.events
    Thresholds.ofSettings settings = .ok ⟨.unset, .unset⟩ ∧
      checked.report.failure = blamed settings firings ∧
      (KeepsFirst settings firings checked.report.failure ↔
        ∀ other ∈ displacing? firings, ∀ first ∈ firings.head?, Owed settings first other) ∧
      ((displacing? firings).isSome ↔ Displaced settings database) ∧
      ∀ trouble, ⟨.dispose, trouble⟩ ∈ firings →
        ⟨.warning, "释放数据库引擎失败: " ++ trouble.message⟩ ∈ checked.journal.lines :=
  ⟨rfl, @failure_run { settings := { query := "SELECT 1" } } ⟨.unset, .unset⟩ rfl _⟩

/-- Trouble with closing the connection hides why the statement was refused, and why the cursor could
not be closed. -/
theorem not_keepsFirst_run :
    let settings : Settings := { query := "SELECT 1" }
    let refused : Database :=
      { executeFault := some (.fault ⟨.database, "boom"⟩)
        connectionCloseFault := some (.fault ⟨.other, "gone"⟩) }
    let held : Database :=
      { columns := ["1"], rows := [[.text "1"]]
        cursorCloseFault := some (.fault ⟨.other, "boom"⟩)
        connectionCloseFault := some (.fault ⟨.other, "gone"⟩) }
    ∀ database ∈ [refused, held],
      let checked := (run { settings } database).1
      ¬ KeepsFirst settings (fired settings database checked.journal.events)
        checked.report.failure := by
  intro settings refused held
  refine List.forall_mem_cons.mpr ⟨?_, List.forall_mem_singleton.mpr ?_⟩
  · have hfailure : (run { settings } refused).1.report.failure =
        some { cause := .check "unexpected error: gone" } := by decide +kernel
    simp only [hfailure]
    exact @not_keepsFirst _ _ .execute ⟨.database, "boom"⟩ _ 'b' (by decide) (by decide +kernel)
      (by decide) (by decide)
  · have hfailure : (run { settings } held).1.report.failure =
        some { cause := .release "failed to release result: gone" (some ⟨.fault .other, "gone"⟩) } :=
      by decide +kernel
    simp only [hfailure]
    exact @not_keepsFirst _ _ .closeCursor ⟨.other, "boom"⟩ _ 'b' (by decide) (by decide +kernel)
      (by decide) (by decide)

end Probe

end SqlGauge
