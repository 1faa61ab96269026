import SqlGauge.Proofs.Json.Limits
import SqlGauge.Proofs.Program.Ending
import SqlGauge.Proofs.Settings.Blanks
import SqlGauge.Proofs.Settings.Refusal

/-!
# When a run returns

A run returns unless a value breaks it off. `Program.Breaks` lists the values that do: a setting that is
left blank and needed, an event beyond the limits of its reader, and a number or a truth value where an
annotation has to give a list. The database is not among the reasons, nor is anything else about
command line, environment and event (`Program.run_reported_or_breaks`).

A command line on which no word ends in two dashes leaves nothing blank, so that only an event can break
the run off then (`Program.event_of_breaks`), and without an event it always returns
(`Program.exists_run_of_given`).
-/

namespace SqlGauge

/-! ## Refused requests -/

/-- The environment gives texts, and any text stands for a list. -/
theorem Settings.failsAs_ofEnvironment_failure (environment : Environment) :
    FailsAs (fun trouble => ∃ failure, trouble = .failure failure) (ofEnvironment environment) := by
  refine .foldlM (fun settings setting => .bind ?_ fun value _ => .ok _) _ _
  unfold Setting.fallback
  split
  · next text _ =>
    intro trouble h
    cases setting.failsAs_convert (.string text) trouble h with
    | failure => exact ⟨_, rfl⟩
    | refusal refusal =>
      obtain ⟨_, kind, hunlistable, _⟩ := Setting.convert_eq_refusal_iff.mp h
      cases hunlistable
  · exact .ok _

theorem Settings.read_eq_refusal_iff {arguments : List String} {environment : Environment}
    {refusal : Refusal} :
    read arguments environment = .error (.refusal refusal) ↔
      ∃ fallbacks draft, ofEnvironment environment = .ok fallbacks ∧
        Flags.apply fallbacks arguments = .ok draft ∧
          draft.validate = .error (.refusal refusal) := by
  have hfallbacks : ofEnvironment environment ≠ .error (.refusal refusal) := by
    intro h
    obtain ⟨_, hfailure⟩ := failsAs_ofEnvironment_failure environment _ h
    cases hfailure
  unfold read
  rw [bind_eq_error_iff, or_iff_right hfallbacks]
  refine exists_congr fun fallbacks => ?_
  rw [exists_and_left]
  refine and_congr_right fun _ => ?_
  cases Flags.apply fallbacks arguments with
  | error stop => cases stop <;> simp [pure, Except.pure]
  | ok draft =>
    dsimp only
    rw [bind_eq_error_iff]
    simp [pure, Except.pure]

namespace Program

/-- The text of an event as its lines are read. -/
def linesOf (text : String) : String :=
  String.ofList (Text.foldLineEnds text.toList)

theorem readEvent_eq_refusal_iff {text : String} {refusal : Refusal} :
    readEvent text = .error (.refusal refusal) ↔
      Json.read (linesOf text) = .error (.refused refusal) := by
  unfold readEvent
  rw [bind_eq_error_iff, mapError_eq_error_iff]
  constructor
  · rintro (⟨unreadable, hread, htrouble⟩ | ⟨json, _, h⟩)
    · cases unreadable with
      | malformed => cases htrouble
      | refused =>
        cases htrouble
        exact hread
    · split at h <;> cases h
  · intro h
    exact .inl ⟨_, h, rfl⟩

/-- A value breaks a run off. -/
inductive Breaks (arguments : List String) (environment : Environment) (event : Option String) :
    Refusal → Prop where
  /-- The timeout is left blank, and the driver is there. -/
  | timeout {fallbacks : Settings} {draft : Draft}
      (henvironment : Settings.ofEnvironment environment = .ok fallbacks)
      (hflags : Flags.apply fallbacks arguments = .ok draft)
      (driverGiven : .driver ∉ draft.blanks)
      (driver : draft.settings.driver ∈ Settings.allowedDrivers)
      (blank : .timeout ∈ draft.blanks) : Breaks arguments environment event (.emptyList .atMost)
  /-- The text of the event goes beyond a limit. -/
  | limit {given : Draft} {text : String} {refusal : Refusal}
      (hread : Settings.read arguments environment = .ok (.check given))
      (hevent : event = some text)
      (hlimit : Json.read (linesOf text) = .error (.refused refusal)) :
      Breaks arguments environment event refusal
  /-- An annotation gives no list where there has to be one. -/
  | annotations {given : Draft} {text : String} {json : Json} {kind : ScalarKind}
      (hread : Settings.read arguments environment = .ok (.check given))
      (hevent : event = some text) (hjson : readEvent text = .ok json)
      (hrefuses : Annotations.EventRefuses json kind) :
      Breaks arguments environment event (.notIterable kind)
  /-- A threshold or the query is left blank. -/
  | blank {draft : Draft} {refusal : Refusal}
      (asked : request arguments environment event = .ok (.check draft))
      (hblank : Thresholds.MeetsBlank draft refusal) : Breaks arguments environment event refusal

section

variable {arguments : List String} {environment : Environment} {event : Option String}

theorem breaks_of_request {refusal : Refusal}
    (asked : request arguments environment event = .error (.refusal refusal)) :
    Breaks arguments environment event refusal := by
  rcases bind_eq_error_iff.mp asked with hread | ⟨given, hread, h⟩
  · obtain ⟨fallbacks, draft, henvironment, hflags, hvalidate⟩ :=
      Settings.read_eq_refusal_iff.mp hread
    obtain ⟨⟨hgiven, hdriver⟩, hblank, rfl⟩ := Draft.validate_eq_refusal_iff.mp hvalidate
    exact .timeout henvironment hflags hgiven hdriver hblank
  · split at h
    · next draft text =>
      rcases bind_eq_error_iff.mp h with hrefused | ⟨json, hjson, h⟩
      · exact .limit hread rfl (readEvent_eq_refusal_iff.mp hrefused)
      rcases bind_eq_error_iff.mp h with hrefused | ⟨after, _, hdone⟩
      · have hvalid := Settings.valid_of_read hread
        rw [Draft.overriddenBy_eq_refusal_iff hvalid, Annotations.ofEvent_eq_refusal_iff] at hrefused
        obtain ⟨kind, hrefuses, rfl⟩ := hrefused
        exact .annotations hread rfl hjson hrefuses
      · cases hdone
    · cases h

/-- What breaks a run off does so whatever the database is. -/
theorem run_of_breaks {refusal : Refusal} (h : Breaks arguments environment event refusal)
    (database : Database) :
    run arguments environment event database = .error (.refusal refusal) := by
  have of_request
      (asked : request arguments environment event = .error (.refusal refusal)) :
      run arguments environment event database = .error (.refusal refusal) := by
    unfold run
    rw [asked]
  cases h with
  | timeout henvironment hflags driverGiven driver blank =>
    have hvalidate := Draft.validate_eq_refusal_iff.mpr ⟨⟨driverGiven, driver⟩, blank, rfl⟩
    have hread := Settings.read_eq_refusal_iff.mpr ⟨_, _, henvironment, hflags, hvalidate⟩
    exact of_request (bind_eq_error_iff.mpr (.inl hread))
  | limit hread hevent hlimit =>
    subst hevent
    refine of_request (bind_eq_error_iff.mpr (.inr ⟨_, hread, ?_⟩))
    exact bind_eq_error_iff.mpr (.inl (readEvent_eq_refusal_iff.mpr hlimit))
  | annotations hread hevent hjson hrefuses =>
    subst hevent
    refine of_request (bind_eq_error_iff.mpr (.inr ⟨_, hread, ?_⟩))
    refine bind_eq_error_iff.mpr (.inr ⟨_, hjson, bind_eq_error_iff.mpr (.inl ?_)⟩)
    rw [Draft.overriddenBy_eq_refusal_iff (Settings.valid_of_read hread)]
    exact Annotations.ofEvent_eq_refusal_iff.mpr ⟨_, hrefuses, rfl⟩
  | blank asked hblank =>
    unfold run check Probe.runDraft
    rw [asked]
    dsimp only
    rw [Thresholds.ofDraft_eq_refusal_iff.mpr hblank]
    rfl

/-- Nothing else breaks a run off. -/
theorem breaks_of_run {database : Database} {trouble : Trouble}
    (h : run arguments environment event database = .error trouble) :
    ∃ refusal, trouble = .refusal refusal ∧ Breaks arguments environment event refusal := by
  have course := course_run arguments environment event database
  rw [h] at course
  cases course with
  | refused asked => exact ⟨_, rfl, breaks_of_request asked⟩
  | blank asked thresholds =>
    exact ⟨_, rfl, .blank asked (Thresholds.ofDraft_eq_refusal_iff.mp thresholds)⟩

/-! ## Reports -/

/-- What comes of a run that returns: the help that was asked for, the report of a request that cannot
be used, or the report of a check. -/
inductive Reported (arguments : List String) (environment : Environment) (event : Option String) :
    Ending → Prop where
  | help (asked : request arguments environment event = .ok .help) :
      Reported arguments environment event helped
  | unusable {ending : Ending} {failure : Failure}
      (asked : request arguments environment event = .error (.failure failure))
      (exit : ending.exitCode = 3)
      (output : ending.output = "error validating input: " ++ failure.message ++ "\n") :
      Reported arguments environment event ending
  | checked {ending : Ending} {draft : Draft} {message : String}
      (asked : request arguments environment event = .ok (.check draft))
      (exit : ending.exitCode ≤ 3) (output : ending.output = message ++ "\n") :
      Reported arguments environment event ending

theorem exitCode_checked_le (settings : Settings) (outcome : Probe.Checked) :
    (checked settings outcome).exitCode ≤ 3 :=
  outcome.report.state.exitCode_le

theorem reported_of_run {database : Database} {ending : Ending}
    (h : run arguments environment event database = .ok ending) :
    Reported arguments environment event ending := by
  have course := course_run arguments environment event database
  rw [h] at course
  cases course with
  | helped asked => exact .help asked
  | unusable asked => exact .unusable asked rfl rfl
  | rejected asked => exact .checked asked (exitCode_checked_le _ _) rfl
  | portless asked => exact .checked asked (exitCode_checked_le _ _) rfl
  | probed asked => exact .checked asked (exitCode_checked_le _ _) rfl

end

/-- A run breaks off just because of such a value; if it does not, it reports. -/
theorem run_reported_or_breaks (arguments : List String) (environment : Environment)
    (event : Option String) (database : Database) :
    match run arguments environment event database with
    | .ok ending => Reported arguments environment event ending ∧
        ∀ refusal, ¬ Breaks arguments environment event refusal
    | .error trouble => ∃ refusal, trouble = .refusal refusal ∧
        Breaks arguments environment event refusal := by
  cases hrun : run arguments environment event database with
  | ok ending =>
    refine ⟨reported_of_run hrun, ?_⟩
    intro refusal h
    rw [run_of_breaks h database] at hrun
    cases hrun
  | error trouble => exact breaks_of_run hrun

/-- A number in the place of the list of arguments breaks the run off. -/
theorem run_breaks_off :
    run ["-q", "SELECT 1"] []
      (some ("\x7b\"check\":\x7b\"metadata\":\x7b\"annotations\":\x7b"
        ++ "\"sensu.io/plugins/sensu-go-sql-select-count-check/config/query_args\":5"
        ++ "\x7d\x7d\x7d,\"entity\":\x7b\x7d\x7d"))
        { columns := ["count"], rows := [[.text "3"]] } =
      .error (.refusal (.notIterable .integer)) := by
  decide +kernel

/-! ## Command lines that leave nothing blank -/

section

variable {arguments : List String} {environment : Environment} {event : Option String}
  (given : ∀ argument ∈ arguments, ¬ Flags.Dashed argument.toList)

include given

theorem blanks_of_read {draft : Draft}
    (hread : Settings.read arguments environment = .ok (.check draft)) : draft.blanks = [] := by
  obtain ⟨_, _, hflags, _⟩ := Settings.read_eq_check_iff.mp hread
  exact Flags.blanks_of_apply given hflags

theorem blanks_of_request {draft : Draft}
    (asked : request arguments environment event = .ok (.check draft)) : draft.blanks = [] := by
  obtain ⟨before, hread, hafter⟩ := request_eq_check_iff.mp asked
  have hbefore := blanks_of_read given hread
  cases event with
  | none =>
    subst hafter
    exact hbefore
  | some text =>
    obtain ⟨json, _, hoverridden⟩ := hafter
    obtain ⟨overrides, _, rfl, _⟩ := Draft.overriddenBy_eq_ok_iff.mp hoverridden
    refine List.eq_nil_iff_forall_not_mem.mpr fun setting h => ?_
    have hblank := Draft.blanks_override h
    rw [hbefore] at hblank
    exact absurd hblank List.not_mem_nil

/-- Then only an event can break a run off: a long one, or one with an annotation that gives no
list. -/
theorem event_of_breaks {refusal : Refusal} (h : Breaks arguments environment event refusal) :
    ∃ text, event = some text ∧ (990 < text.length ∨ ∃ json kind, readEvent text = .ok json ∧
      Annotations.EventRefuses json kind ∧ refusal = .notIterable kind) := by
  cases h with
  | timeout henvironment hflags driverGiven driver blank =>
    rw [Flags.blanks_of_apply given hflags] at blank
    exact absurd blank List.not_mem_nil
  | @limit draft text refusal hread hevent hlimit =>
    refine ⟨text, hevent, .inl ?_⟩
    have hlines : 990 < (linesOf text).length := Json.length_of_refused hlimit
    have hfold : (linesOf text).length ≤ text.length := by
      rw [linesOf, String.length_ofList]
      exact Text.length_foldLineEnds_le text.toList
    omega
  | annotations hread hevent hjson hrefuses =>
    exact ⟨_, hevent, .inr ⟨_, _, hjson, hrefuses, rfl⟩⟩
  | blank asked hblank =>
    obtain ⟨setting, hmem⟩ := hblank.exists_mem
    rw [blanks_of_request given asked] at hmem
    exact absurd hmem List.not_mem_nil

/-- Without an event such a command line leads to a report, whatever the database does. -/
theorem exists_run_of_given (database : Database) :
    ∃ ending, run arguments environment none database = .ok ending ∧
      Reported arguments environment none ending := by
  cases hrun : run arguments environment none database with
  | ok ending => exact ⟨ending, rfl, reported_of_run hrun⟩
  | error trouble =>
    obtain ⟨_, _, hbreaks⟩ := breaks_of_run hrun
    obtain ⟨_, hnone, _⟩ := event_of_breaks given hbreaks
    cases hnone

end

end Program

end SqlGauge
