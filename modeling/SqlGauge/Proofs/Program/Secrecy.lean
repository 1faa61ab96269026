import SqlGauge.Proofs.Program.Course
import SqlGauge.Proofs.Settings.Congruence

/-!
# What does not show

Host, user, password and database are only looked at to put the address together; every other setting is
decisive (`Setting.Decisive`). So environments that agree on the decisive settings make a run end with the
same exit code, output, log and journal, but for the address that is opened
(`Program.veiled_run_of_decisive`). In particular nothing but that address can show the password
(`Program.veiled_run`).

A run is followed step by step: the environments give settings that agree, flags and event keep them so
(`Program.matches_request`), and drafts that agree are checked in the same way (`Probe.veiled_runDraft`).
-/

namespace SqlGauge

/-! ## Without addresses -/

/-- An event without the address that is opened. -/
def Event.veiled : Event → Event
  | .openEngine _ arguments => .openEngine "" arguments
  | event => event

/-- A journal without addresses. -/
def Journal.veiled (journal : Journal) : Journal :=
  { journal with events := journal.events.map Event.veiled }

theorem Journal.veiled_append (first second : Journal) :
    (first ++ second).veiled = first.veiled ++ second.veiled := by
  unfold veiled
  rw [events_append, List.map_append]
  rfl

/-- A report, and the journal of the way to it without addresses. -/
def Probe.Checked.veiled (checked : Checked) : Checked :=
  { checked with journal := checked.journal.veiled }

/-- The end of a program without addresses. -/
def Program.Ending.veiled (ending : Ending) : Ending :=
  { ending with journal := ending.journal.veiled }

/-! ## Decisive settings -/

/-- A setting that is good for more than the address that is put together from parts. -/
def Setting.Decisive (setting : Setting) : Prop :=
  setting ∉ [host, user, password, database]

instance (setting : Setting) : Decidable setting.Decisive :=
  inferInstanceAs (Decidable (_ ∉ _))

theorem Setting.kind_of_not_decisive {setting : Setting} (h : ¬ setting.Decisive) :
    setting.kind = .text := by
  cases setting <;> first | rfl | exact absurd (by decide) h

open Setting (Decisive)

/-! ## Checks -/

section

variable {a b : Settings}

/-- The address may be another one, but its scheme is the same. -/
theorem Address.matches_ofSettings (h : a.AgreeOn Decisive b) :
    Matches (fun address address' => address.scheme = address'.scheme) (ofSettings a)
      (ofSettings b) := by
  have hdburl : a.dburl = b.dburl := h .dburl (by decide)
  have hdriver : a.driver = b.driver := h .driver (by decide)
  unfold ofSettings assemble
  rw [hdburl, hdriver]
  split
  · split
    · exact .error _
    · exact .ok rfl
  · split
    · exact .error _
    · exact .ok rfl

theorem Deadlines.choose_eq {address address' : Address} (h : address.scheme = address'.scheme)
    (timeout : Binary64) : choose timeout address = choose timeout address' := by
  unfold choose Address.schemeParts
  rw [h]

theorem Session.matches_opening (h : a.AgreeOn Decisive b) :
    Matches (fun event event' => event.veiled = event'.veiled) (opening a) (opening b) := by
  have htimeout : a.timeout = b.timeout := h .timeout (by decide)
  unfold opening
  obtain ⟨trouble, ha, hb⟩ | ⟨address, address', ha, hb, hscheme⟩ :=
    (Address.matches_ofSettings h).error_or_ok
  · rw [ha, hb]
    exact .error trouble
  · rw [ha, hb, htimeout]
    dsimp only
    rw [Deadlines.choose_eq hscheme]
    split
    · exact .error _
    · exact .ok rfl

theorem Session.veiled_start (h : a.AgreeOn Decisive b) (database : Database) :
    (start a database).result = (start b database).result ∧
      (start a database).journal.veiled = (start b database).journal.veiled := by
  obtain ⟨trouble, ha, hb⟩ | ⟨event, event', ha, hb, hevent⟩ := (matches_opening h).error_or_ok
  · rw [start_of_opening_error ha, start_of_opening_error hb]
    exact ⟨rfl, rfl⟩
  · rw [start_of_opening_ok ha, start_of_opening_ok hb]
    refine ⟨rfl, ?_⟩
    simp only [Journal.veiled, Journal.ofEvents, List.map_cons, hevent]

namespace Probe

/-- Once the database is open, only decisive settings are looked at. -/
theorem ask_eq (h : a.AgreeOn Decisive b) (thresholds : Thresholds) (database : Database) :
    ask a thresholds database = ask b thresholds database :=
  ask_congr (h .query (by decide)) (h .queryArgs (by decide)) (h .unquote (by decide)) thresholds
    database

theorem veiled_fail (stage : Stage) (trouble : Trouble) {before before' : Journal}
    (h : before.veiled = before'.veiled) :
    (fail stage trouble before).veiled = (fail stage trouble before').veiled := by
  simp only [fail_eq, Checked.veiled, Journal.veiled_append, h]

/-- Checks with settings that agree go the same way. -/
theorem veiled_check (h : a.AgreeOn Decisive b) (thresholds : Thresholds) (database : Database) :
    (check a thresholds database).veiled = (check b thresholds database).veiled := by
  obtain ⟨hresult, hjournal⟩ := Session.veiled_start h database
  unfold check
  dsimp only
  rw [hresult, ask_eq h]
  cases (Session.start b database).result with
  | error trouble => exact veiled_fail .opening trouble hjournal
  | ok _ => simp only [Checked.veiled, Journal.veiled_append, hjournal]

end Probe

end

section

variable {a b : Draft}

theorem Thresholds.ofDraft_eq (h : a.AgreeOn Decisive b) : ofDraft a = ofDraft b := by
  have hdecisive : ∀ setting ∈ [Setting.warning, .critical, .query], Decisive setting := by decide
  exact ofDraft_congr (fun setting _ => h.need_eq setting)
    fun setting hsetting => h.settings setting (hdecisive setting hsetting)

theorem Probe.needPort_eq (h : a.AgreeOn Decisive b) : needPort a = needPort b := by
  have hdburl : a.filled.dburl = b.filled.dburl := h.filled .dburl (by decide)
  unfold needPort
  rw [hdburl, h.need_eq]

theorem Probe.veiled_runDraft (h : a.AgreeOn Decisive b) (database : Database) :
    (runDraft a database).map Checked.veiled = (runDraft b database).map Checked.veiled := by
  unfold runDraft
  rw [Thresholds.ofDraft_eq h, needPort_eq h]
  split
  · rfl
  · rfl
  · split
    · rfl
    · exact congrArg Except.ok (veiled_check h.filled _ database)

end

/-! ## Runs -/

namespace Program

theorem veiled_check {a b : Draft} (h : a.AgreeOn Decisive b) (database : Database) :
    (check a database).map Ending.veiled = (check b database).map Ending.veiled := by
  have hdebug : a.settings.debug = b.settings.debug := h.settings .debug (by decide)
  have hcommutes (draft : Draft) : (check draft database).map Ending.veiled =
      ((Probe.runDraft draft database).map Probe.Checked.veiled).map (checked draft.settings) := by
    unfold check
    cases Probe.runDraft draft database <;> rfl
  have hchecked : checked a.settings = checked b.settings := by
    funext outcome
    unfold checked
    rw [hdebug]
  rw [hcommutes, hcommutes, Probe.veiled_runDraft h, hchecked]

theorem matches_request {known : Setting → Prop} {environment environment' : Environment}
    (h : Matches (Settings.AgreeOn known) (Settings.ofEnvironment environment)
      (Settings.ofEnvironment environment'))
    (hdriver : known .driver) (htimeout : known .timeout) (arguments : List String)
    (event : Option String) :
    Matches (Settings.Request.AgreeOn known) (request arguments environment event)
      (request arguments environment' event) := by
  refine .bind (Settings.matches_read h hdriver htimeout arguments) fun asked asked' hasked => ?_
  cases hasked with
  | help => exact .ok .help
  | check hdraft =>
    cases event with
    | none => exact .ok (.check hdraft)
    | some text =>
      -- the event is read without asking what the draft says
      refine .bind (.refl (fun _ => rfl) (readEvent text)) fun json _ hjson => ?_
      subst hjson
      refine .bind (Draft.matches_overriddenBy hdraft hdriver htimeout json) fun _ _ hafter => ?_
      exact .ok (.check hafter)

/-- Environments that agree on the decisive settings make a run end in the same way. -/
theorem veiled_run_of_decisive (arguments : List String) {environment environment' : Environment}
    (h : ∀ setting : Setting, setting.Decisive →
      environment.lookup setting.variableName = environment'.lookup setting.variableName)
    (event : Option String) (database : Database) :
    (run arguments environment event database).map Ending.veiled =
      (run arguments environment' event database).map Ending.veiled := by
  have hsettings := Settings.matches_ofEnvironment h fun _ => Setting.kind_of_not_decisive
  have hrequest := matches_request hsettings (by decide) (by decide) arguments event
  unfold run
  obtain ⟨trouble, hmet, hmet'⟩ | ⟨asked, asked', ha, hb, hasked⟩ := hrequest.error_or_ok
  · rw [hmet, hmet']
  · rw [ha, hb]
    cases hasked with
    | help => rfl
    | check hdraft => exact veiled_check hdraft database

/-- The password of the environment shows in nothing but the address that is opened. -/
theorem veiled_run (arguments : List String) {environment environment' : Environment}
    (h : ∀ name, name ≠ Setting.password.variableName →
      environment.lookup name = environment'.lookup name)
    (event : Option String) (database : Database) :
    (run arguments environment event database).map Ending.veiled =
      (run arguments environment' event database).map Ending.veiled := by
  refine veiled_run_of_decisive arguments (fun setting hdecisive => h _ ?_) event database
  cases setting <;> first | exact absurd hdecisive (by decide) | decide

/-- Two passwords that are denied. The addresses show them, and nothing else does. -/
theorem veiled_run_denied :
    (∀ name, name ≠ Setting.password.variableName →
        List.lookup name [("SQL_USER", "me"), ("SQL_PASSWORD", "a")] =
          List.lookup name [("SQL_USER", "me"), ("SQL_PASSWORD", "b")]) ∧
      run ["-q", "SELECT 1"] [("SQL_USER", "me"), ("SQL_PASSWORD", "a")] none
          { connectFault := some (.fault ⟨.database, "access denied"⟩) } ≠
        run ["-q", "SELECT 1"] [("SQL_USER", "me"), ("SQL_PASSWORD", "b")] none
          { connectFault := some (.fault ⟨.database, "access denied"⟩) } ∧
      (run ["-q", "SELECT 1"] [("SQL_USER", "me"), ("SQL_PASSWORD", "a")] none
          { connectFault := some (.fault ⟨.database, "access denied"⟩) }).map Ending.veiled =
        (run ["-q", "SELECT 1"] [("SQL_USER", "me"), ("SQL_PASSWORD", "b")] none
          { connectFault := some (.fault ⟨.database, "access denied"⟩) }).map Ending.veiled := by
  have hlookup : ∀ name, name ≠ Setting.password.variableName →
      List.lookup name [("SQL_USER", "me"), ("SQL_PASSWORD", "a")] =
        List.lookup name [("SQL_USER", "me"), ("SQL_PASSWORD", "b")] := by
    intro name hname
    have hpassword : (name == "SQL_PASSWORD") = false := beq_eq_false_iff_ne.mpr hname
    simp only [List.lookup_cons, hpassword]
  exact ⟨hlookup, by decide +kernel, veiled_run _ hlookup _ _⟩

end Program

end SqlGauge
