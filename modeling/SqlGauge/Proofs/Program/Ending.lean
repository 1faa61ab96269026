import SqlGauge.Proofs.Check.Verdict
import SqlGauge.Proofs.Program.Course

/-!
# How a run ends

Unless it is asked for help, a run that ends does so in one of six ways, its `Shape`: three verdicts on
a measurement, settings that are rejected before or after logging has been set up, and a check that
failed. Exit code, output, logging and journal agree on the shape, and tell it from every other one
(`Program.shape_run`).

Whatever is asked of a database, it is a check with accepted settings that asks it. `Accepted` says
when settings are accepted, and no database occurs in it.
-/

namespace SqlGauge

/-! ## Settings that are accepted -/

namespace Program

/-- Flags, environment and event are accepted, and so are the thresholds and the query they give. -/
structure Accepted (arguments : List String) (environment : Environment) (event : Option String)
    (draft : Draft) (thresholds : Thresholds) : Prop where
  fallbacks : ∃ fallbacks, Settings.ofEnvironment environment = .ok fallbacks
  settings : ∃ given, Settings.read arguments environment = .ok (.check given) ∧
    match event with
    | none => draft = given
    | some text => ∃ json, readEvent text = .ok json ∧ given.overriddenBy json = .ok draft
  thresholds : thresholds.Accepts draft

theorem accepted_of_request {arguments : List String} {environment : Environment}
    {event : Option String} {draft : Draft} {thresholds : Thresholds}
    (asked : request arguments environment event = .ok (.check draft))
    (accepted : Thresholds.ofDraft draft = .ok thresholds) :
    Accepted arguments environment event draft thresholds := by
  obtain ⟨given, hread, hafter⟩ := request_eq_check_iff.mp asked
  obtain ⟨fallbacks, hfallbacks, _⟩ := Settings.read_eq_check_iff.mp hread
  exact ⟨⟨fallbacks, hfallbacks⟩, ⟨given, hread, hafter⟩, Thresholds.ofDraft_eq_ok_iff.mp accepted⟩

end Program

/-! ## Shapes -/

/-- The ways in which a run can end. -/
inductive Shape where
  | ok
  | warning
  | critical
  | rejected
  | unusable
  | failed
deriving DecidableEq

namespace Shape

/-- The exit code of a shape. -/
def exitCode : Shape → Nat
  | ok => 0
  | warning => 1
  | critical => 2
  | rejected => 2
  | unusable => 3
  | failed => 3

/-- What the output starts with. -/
def lead : Shape → String
  | ok => "OK: result is "
  | warning => "WARNING: result is "
  | critical => "CRITICAL: result is "
  | rejected => "error validating input: "
  | unusable => "error validating input: "
  | failed => "error executing check: "

/-- What has been done: settings are rejected before anything is asked of the database, and found
unusable before logging is set up. -/
def Done : Shape → Program.Ending → Prop
  | rejected, ending => ending.verbosity ≠ .unsettled ∧ ending.journal.events = []
  | unusable, ending => ending.verbosity = .unsettled ∧ ending.journal.events = []
  | _, _ => True

/-- A run ends in this way. -/
structure Fits (shape : Shape) (ending : Program.Ending) : Prop where
  exitCode : ending.exitCode = shape.exitCode
  lead : shape.lead.toList <+: ending.output.toList
  done : shape.Done ending

/-- No shape starts its output like another one that has the same exit code. -/
theorem eq_of_lead {a b : Shape} (hlead : a.lead.toList <+: b.lead.toList)
    (hexit : a.exitCode = b.exitCode) : a = b := by
  cases a <;> cases b <;> first | rfl | exact absurd hexit (by decide) | exact absurd hlead (by decide)

/-- A run ends in one way only. -/
theorem Fits.unique {a b : Shape} {ending : Program.Ending} (ha : a.Fits ending)
    (hb : b.Fits ending) : a = b := by
  have hexit : a.exitCode = b.exitCode := ha.exitCode.symm.trans hb.exitCode
  -- of two starts of one text the shorter one starts the longer one
  rcases List.prefix_or_prefix_of_prefix ha.lead hb.lead with h | h
  · exact eq_of_lead h hexit
  · exact (eq_of_lead h hexit.symm).symm

end Shape

/-! ## Reports -/

/-- The shape of a run whose check reports a state. -/
def State.shape : State → Shape
  | ok => .ok
  | warning => .warning
  | critical => .critical
  | unknown => .failed

namespace Report

/-- The message starts as the state of the report calls for. -/
def Leads (report : Report) : Prop :=
  ∃ body, report.message = report.state.shape.lead ++ body

theorem leads_failed (stage : String) (failure : Failure) : (failed stage failure).Leads := by
  refine ⟨stage ++ (" error: " ++ failure.message), ?_⟩
  show "error executing check: " ++ stage ++ " error: " ++ failure.message = _
  rw [String.append_assoc, String.append_assoc]
  rfl

theorem leads_alert {state : State} (h : state ≠ .unknown) (threshold : Threshold)
    (value : Binary64) : (alert state threshold value).Leads := by
  have hlead : state.name ++ ": result is " = state.shape.lead := by
    cases state <;> first | rfl | exact absurd rfl h
  refine ⟨value.fixedText ++ (" which is out of " ++ threshold.text), ?_⟩
  show state.name ++ ": result is " ++ value.fixedText ++ " which is out of " ++ threshold.text = _
  rw [hlead, String.append_assoc, String.append_assoc]
  rfl

theorem leads_measured (thresholds : Thresholds) (reading : Reading) :
    (Probe.measured thresholds reading).Leads := by
  unfold Probe.measured judge
  split
  · exact @leads_alert .critical (by decide) _ _
  · split
    · exact @leads_alert .warning (by decide) _ _
    · exact ⟨reading.value.fixedText, rfl⟩

end Report

theorem Probe.leads_check (settings : Settings) (thresholds : Thresholds) (database : Database) :
    (check settings thresholds database).report.Leads := by
  have course := course_check settings thresholds database
  generalize check settings thresholds database = checked at course ⊢
  cases course with
  | unaddressed => exact Report.leads_failed _ _
  | uncreated => exact Report.leads_failed _ _
  | unconnected => exact Report.leads_failed _ _
  | unexecuted => exact Report.leads_failed _ _
  | unread => exact Report.leads_failed _ _
  | read => exact Report.leads_measured _ _

/-! ## Endings -/

namespace Program

theorem fits_unusable (failure : Failure) : Shape.unusable.Fits (unusable failure) := by
  refine ⟨rfl, ?_, rfl, rfl⟩
  show _ <+: ("error validating input: " ++ failure.message ++ "\n").toList
  rw [String.toList_append, String.toList_append, List.append_assoc]
  exact List.prefix_append _ _

theorem verbosity_checked (settings : Settings) (outcome : Probe.Checked) :
    (checked settings outcome).verbosity ≠ .unsettled := by
  show (if settings.debug then Verbosity.full else Verbosity.brief) ≠ .unsettled
  split <;> decide

theorem fits_rejected (settings : Settings) (failure : Failure) :
    Shape.rejected.Fits (checked settings (Probe.rejected failure)) := by
  refine ⟨rfl, ?_, verbosity_checked _ _, rfl⟩
  show _ <+: ("error validating input: " ++ failure.message ++ "\n").toList
  rw [String.toList_append, String.toList_append, List.append_assoc]
  exact List.prefix_append _ _

/-- A report that starts as its state calls for gives the run the shape of the state. -/
theorem fits_checked (settings : Settings) {outcome : Probe.Checked} (h : outcome.report.Leads) :
    outcome.report.state.shape.Fits (checked settings outcome) := by
  obtain ⟨body, hbody⟩ := h
  refine ⟨?_, ?_, ?_⟩
  · show outcome.report.state.exitCode = _
    cases outcome.report.state <;> rfl
  · show _ <+: (outcome.report.message ++ "\n").toList
    rw [hbody, String.toList_append, String.toList_append, List.append_assoc]
    exact List.prefix_append _ _
  · cases outcome.report.state <;> trivial

/-- A run that is not asked for help ends in exactly one of the six ways. If anything is asked of the
database, then settings had been accepted whatever the database is, and it is the check with these
that asks it. -/
theorem shape_run {arguments : List String} {environment : Environment} {event : Option String}
    {database : Database} {ending : Ending}
    (ended : run arguments environment event database = .ok ending)
    (asked : request arguments environment event ≠ .ok .help) :
    (∃ shape : Shape, shape.Fits ending ∧ ∀ other : Shape, other.Fits ending → other = shape) ∧
      (ending.journal.events ≠ [] → ∃ draft thresholds,
        Accepted arguments environment event draft thresholds ∧
          ending.journal = (Probe.check draft.filled thresholds database).journal) := by
  have hunique {shape : Shape} (h : shape.Fits ending) :
      ∃ shape : Shape, shape.Fits ending ∧ ∀ other : Shape, other.Fits ending → other = shape :=
    ⟨shape, h, fun other hother => hother.unique h⟩
  have course := course_run arguments environment event database
  rw [ended] at course
  cases course with
  | helped hhelp => exact absurd hhelp asked
  | unusable => exact ⟨hunique (fits_unusable _), fun h => absurd rfl h⟩
  | rejected => exact ⟨hunique (fits_rejected _ _), fun h => absurd rfl h⟩
  | portless =>
    exact ⟨hunique (fits_checked _ (Report.leads_failed _ _)), fun h => absurd rfl h⟩
  | @probed draft thresholds hasked accepted =>
    exact ⟨hunique (fits_checked _ (Probe.leads_check _ _ _)),
      fun _ => ⟨draft, thresholds, accepted_of_request hasked accepted, rfl⟩⟩

/-- A run that raises an alert. -/
theorem shape_run_alert :
    ∃ ending, run ["-H", "h", "-q", "SELECT COUNT(*) FROM jobs", "-w", "2"] [] none
        { columns := ["count"], rows := [[.text "3"]] } = .ok ending ∧
      Shape.warning.Fits ending ∧ (∀ shape : Shape, shape.Fits ending → shape = .warning) ∧
        ∃ draft thresholds,
          Accepted ["-H", "h", "-q", "SELECT COUNT(*) FROM jobs", "-w", "2"] [] none draft
            thresholds := by
  have asked : request ["-H", "h", "-q", "SELECT COUNT(*) FROM jobs", "-w", "2"] [] none ≠
      .ok .help := by
    decide +kernel
  obtain ⟨ending, ended, fits, hevents⟩ : ∃ ending,
      run ["-H", "h", "-q", "SELECT COUNT(*) FROM jobs", "-w", "2"] [] none
        { columns := ["count"], rows := [[.text "3"]] } = .ok ending ∧
      Shape.warning.Fits ending ∧ ending.journal.events ≠ [] :=
    ⟨{ exitCode := 1
       output := "WARNING: result is 3.000000 which is out of 2\n"
       verbosity := .brief
       journal := .ofEvents
        [.openEngine "mysql+pymysql://h"
            [("connect_timeout", "10"), ("read_timeout", "10"), ("write_timeout", "10")],
          .connect, .withoutParameters, .execute "SELECT COUNT(*) FROM jobs" none, .row 1,
          .closeCursor, .closeConnection, .dispose] },
      by decide +kernel, ⟨rfl, by decide, trivial⟩, List.cons_ne_nil _ _⟩
  obtain ⟨⟨shape, _, hother⟩, haccepted⟩ := shape_run ended asked
  obtain ⟨draft, thresholds, accepted, _⟩ := haccepted hevents
  refine ⟨ending, ended, fits, ?_, draft, thresholds, accepted⟩
  intro other h
  rw [hother other h, hother _ fits]

end Program

end SqlGauge
