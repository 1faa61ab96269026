import SqlGauge.Proofs.Check.Course
import SqlGauge.Proofs.Settings.Valid
import SqlGauge.Proofs.Settings.Words

/-!
# The course of a run

`Program.Course` lists the ways a run of the program can go, each with what it takes and how it ends,
and `Program.course_run` says that every run goes one of them.

* **settings**: help is asked for (`helped`), the settings cannot be used (`unusable`), or a value is
  refused on the way (`refused`);
* **thresholds**: a setting that is needed now is blank (`blank`), or thresholds or query are rejected
  (`rejected`);
* **check**: the port is blank (`portless`), or the database is checked (`probed`).
-/

namespace SqlGauge.Program

deriving instance DecidableEq for Settings.Request

/-! ## Requests -/

/-- Flags and environment give settings, and the event, if there is one, overrides them. -/
theorem request_eq_check_iff {arguments : List String} {environment : Environment}
    {event : Option String} {draft : Draft} :
    request arguments environment event = .ok (.check draft) ↔
      ∃ given, Settings.read arguments environment = .ok (.check given) ∧
        match event with
        | none => draft = given
        | some text => ∃ json, readEvent text = .ok json ∧ given.overriddenBy json = .ok draft := by
  unfold request
  rw [bind_eq_ok_iff]
  constructor
  · rintro ⟨asked, hasked, h⟩
    cases asked with
    | help => cases h
    | check given =>
      refine ⟨given, hasked, ?_⟩
      cases event with
      | none =>
        cases h
        rfl
      | some text =>
        obtain ⟨json, hjson, h⟩ := bind_eq_ok_iff.mp h
        obtain ⟨after, hafter, h⟩ := bind_eq_ok_iff.mp h
        cases h
        exact ⟨json, hjson, hafter⟩
  · rintro ⟨given, hasked, h⟩
    refine ⟨_, hasked, ?_⟩
    cases event with
    | none =>
      subst h
      rfl
    | some text =>
      obtain ⟨json, hjson, hafter⟩ := h
      exact bind_eq_ok_iff.mpr ⟨json, hjson, bind_eq_ok_iff.mpr ⟨draft, hafter, rfl⟩⟩

/-- What is checked has been validated. -/
theorem valid_of_request {arguments : List String} {environment : Environment}
    {event : Option String} {draft : Draft}
    (asked : request arguments environment event = .ok (.check draft)) : draft.Valid := by
  obtain ⟨given, hread, hafter⟩ := request_eq_check_iff.mp asked
  have hgiven := Settings.valid_of_read hread
  cases event with
  | none =>
    subst hafter
    exact hgiven
  | some text =>
    obtain ⟨json, _, hoverridden⟩ := hafter
    exact Draft.valid_of_overriddenBy hgiven hoverridden

/-! ## Runs -/

/-- The ways a run can go. -/
inductive Course (arguments : List String) (environment : Environment) (event : Option String)
    (database : Database) : Except Trouble Ending → Prop where
  | helped (asked : request arguments environment event = .ok .help) :
      Course arguments environment event database (.ok helped)
  | unusable {failure : Failure}
      (asked : request arguments environment event = .error (.failure failure)) :
      Course arguments environment event database (.ok (unusable failure))
  | refused {refusal : Refusal}
      (asked : request arguments environment event = .error (.refusal refusal)) :
      Course arguments environment event database (.error (.refusal refusal))
  | blank {draft : Draft} {refusal : Refusal}
      (asked : request arguments environment event = .ok (.check draft))
      (thresholds : Thresholds.ofDraft draft = .error (.refusal refusal)) :
      Course arguments environment event database (.error (.refusal refusal))
  | rejected {draft : Draft} {failure : Failure}
      (asked : request arguments environment event = .ok (.check draft))
      (thresholds : Thresholds.ofDraft draft = .error (.failure failure)) :
      Course arguments environment event database
        (.ok (checked draft.settings (Probe.rejected failure)))
  | portless {draft : Draft} {thresholds : Thresholds} {refusal : Refusal}
      (asked : request arguments environment event = .ok (.check draft))
      (accepted : Thresholds.ofDraft draft = .ok thresholds)
      (port : Probe.needPort draft = .error refusal) :
      Course arguments environment event database
        (.ok (checked draft.settings (Probe.fail .opening (.refusal refusal) {})))
  | probed {draft : Draft} {thresholds : Thresholds}
      (asked : request arguments environment event = .ok (.check draft))
      (accepted : Thresholds.ofDraft draft = .ok thresholds)
      (port : Probe.needPort draft = .ok ()) :
      Course arguments environment event database
        (.ok (checked draft.settings (Probe.check draft.filled thresholds database)))

theorem course_check {arguments : List String} {environment : Environment} {event : Option String}
    {draft : Draft} (asked : request arguments environment event = .ok (.check draft))
    (database : Database) :
    Course arguments environment event database (check draft database) := by
  unfold check Probe.runDraft
  have hthresholds := Thresholds.failsAs_ofDraft draft
  cases haccepted : Thresholds.ofDraft draft with
  | error trouble =>
    rw [haccepted] at hthresholds
    cases hthresholds trouble rfl with
    | failure h => exact .rejected asked haccepted
    | refusal refusal => exact .blank asked haccepted
  | ok thresholds =>
    dsimp only
    cases hport : Probe.needPort draft with
    | error refusal => exact .portless asked haccepted hport
    | ok value => exact .probed asked haccepted hport

/-- Every run goes one of these ways. -/
theorem course_run (arguments : List String) (environment : Environment) (event : Option String)
    (database : Database) :
    Course arguments environment event database (run arguments environment event database) := by
  unfold run
  have hrequest := failsAs_request arguments environment event
  cases hasked : request arguments environment event with
  | error trouble =>
    rw [hasked] at hrequest
    -- the database has not been asked, so the trouble is no fault
    cases hrequest trouble rfl with
    | failure h => exact .unusable hasked
    | refusal refusal => exact .refused hasked
  | ok asked =>
    cases asked with
    | help => exact .helped hasked
    | check draft => exact course_check hasked database

end SqlGauge.Program
