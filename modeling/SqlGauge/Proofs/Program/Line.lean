import SqlGauge.Proofs.Check.Line
import SqlGauge.Proofs.Program.Ending

/-!
# The line that a run prints

Unless it is asked for help, a run prints a line feed at the end of its output. Whether there is no
other one depends on the texts that it repeats as they are, `Program.repeated`: words of the command
line that belong to no flag, texts of the database, and the start of a statement that the database
does not take. Everything else in the output, the cells of the result and the thresholds among it,
holds no line feed (`Program.isLine_run_iff`). Before there is a check, only the command line can spoil the
output (`Program.isLine_run_of_arguments`).
-/

namespace SqlGauge.Program

open Text

/-- The texts that the output of a run repeats as they are. -/
def repeated (arguments : List String) (environment : Environment) (event : Option String)
    (database : Database) : List String :=
  match request arguments environment event with
  | .error _ => repeatedWords arguments environment
  | .ok .help => []
  | .ok (.check draft) =>
    match Thresholds.ofDraft draft, Probe.needPort draft with
    | .ok _, .ok () => Probe.repeated draft.filled database
    | _, _ => []

/-! ## Outputs -/

theorem isLine_unusable_iff {words : List String} {failure : Failure}
    (h : failure.TellsSettings words) :
    IsLine (unusable failure).output ↔ ∀ word ∈ words, Unbroken word := by
  have hlead : Unbroken "error validating input: " := .literal rfl (by decide)
  show IsLine ("error validating input: " ++ failure.message ++ "\n") ↔ _
  rw [isLine_append_iff, unbroken_append, and_iff_right hlead, h.unbroken_iff]

theorem isLine_checked_iff {settings : Settings} {outcome : Probe.Checked} :
    IsLine (checked settings outcome).output ↔ Unbroken outcome.report.message :=
  isLine_append_iff

theorem unbroken_rejected {failure : Failure} (h : failure.TellsSettings []) :
    Unbroken (Probe.rejected failure).report.message := by
  refine unbroken_append.mpr ⟨.literal rfl (by decide), h.unbroken_iff.mpr ?_⟩
  exact List.forall_mem_nil _

theorem unbroken_portless (refusal : Refusal) :
    Unbroken (Probe.fail .opening (.refusal refusal) {}).report.message := by
  rw [Probe.fail_eq, Report.unbroken_failed_iff (Probe.unbroken_stage _),
    Trouble.unbroken_reported_iff]
  exact refusal.unbroken_message

/-- What a check with accepted settings says is one line just if the texts it repeats are. -/
theorem unbroken_probed_iff {draft : Draft} {thresholds : Thresholds} {database : Database}
    (valid : draft.Valid) (accepts : thresholds.Accepts draft) :
    Unbroken (Probe.check draft.filled thresholds database).report.message ↔
      ∀ text ∈ Probe.repeated draft.filled database, Unbroken text := by
  have hdriver : draft.filled.driver ∈ Settings.allowedDrivers := by
    rw [draft.driver_filled]
    exact valid.driver
  exact Probe.unbroken_check_iff hdriver (Threshold.unbroken_text_of_read accepts.warning)
    (Threshold.unbroken_text_of_read accepts.critical)

/-! ## Runs -/

/-- Nothing breaks the output of a run into lines but a text that it repeats as it is. -/
theorem isLine_run_iff {arguments : List String} {environment : Environment}
    {event : Option String} {database : Database} {ending : Ending}
    (ended : run arguments environment event database = .ok ending)
    (asked : request arguments environment event ≠ .ok .help) :
    IsLine ending.output ↔
      ∀ text ∈ repeated arguments environment event database, Unbroken text := by
  have nothing {P : Prop} (h : P) : P ↔ ∀ text ∈ ([] : List String), Unbroken text :=
    iff_of_true h (List.forall_mem_nil _)
  have course := course_run arguments environment event database
  rw [ended] at course
  unfold repeated
  cases course with
  | helped hhelp => exact absurd hhelp asked
  | unusable hfailure =>
    have hrequest := failsAs_request arguments environment event _ hfailure
    rw [hfailure]
    cases hrequest with
    | failure h => exact isLine_unusable_iff h
  | rejected hdraft hrejected =>
    have hthresholds := Thresholds.failsAs_ofDraft _ _ hrejected
    rw [hdraft, isLine_checked_iff]
    dsimp only
    rw [hrejected]
    cases hthresholds with
    | failure h => exact nothing (unbroken_rejected h)
  | portless hdraft accepted port =>
    rw [hdraft, isLine_checked_iff]
    dsimp only
    rw [accepted, port]
    exact nothing (unbroken_portless _)
  | probed hdraft accepted port =>
    rw [hdraft, isLine_checked_iff]
    dsimp only
    rw [accepted, port]
    exact unbroken_probed_iff (valid_of_request hdraft) (Thresholds.ofDraft_eq_ok_iff.mp accepted)

/-- A run that does not get as far as a check prints one line if the words of the command line
are. -/
theorem isLine_run_of_arguments {arguments : List String} {environment : Environment}
    {event : Option String} {database : Database} {ending : Ending} {trouble : Trouble}
    (ended : run arguments environment event database = .ok ending)
    (asked : request arguments environment event = .error trouble)
    (h : ∀ argument ∈ arguments, Unbroken argument) : IsLine ending.output := by
  unfold run at ended
  rw [asked] at ended
  cases failsAs_request arguments environment event trouble asked with
  | failure hfailure =>
    cases ended
    refine (isLine_unusable_iff hfailure).mpr fun word hword => ?_
    exact h word (mem_of_mem_repeatedWords hword)
  | refusal => cases ended

/-- A statement of two lines is no harm as long as the database takes it. -/
theorem isLine_run_taken :
    ∃ ending, run ["-q", "SELECT\nCOUNT(*) FROM jobs"] [] none
        { columns := ["count"], rows := [[.text "3"]] } = .ok ending ∧
      IsLine ending.output := by
  obtain ⟨ending, ended⟩ : ∃ ending, run ["-q", "SELECT\nCOUNT(*) FROM jobs"] [] none
      { columns := ["count"], rows := [[.text "3"]] } = .ok ending :=
    ⟨{ exitCode := 0
       output := "OK: result is 3.000000\n"
       verbosity := .brief
       journal := .ofEvents
        [.openEngine "mysql+pymysql://"
            [("connect_timeout", "10"), ("read_timeout", "10"), ("write_timeout", "10")],
          .connect, .withoutParameters, .execute "SELECT\nCOUNT(*) FROM jobs" none, .row 1,
          .closeCursor, .closeConnection, .dispose] },
      by decide +kernel⟩
  exact ⟨ending, ended, (isLine_run_iff ended (by decide +kernel)).mpr (by decide +kernel)⟩

/-- The failure to connect repeats the statement, which breaks the output into two lines. -/
theorem not_isLine_run :
    request ["-q", "SELECT\n1"] [] none ≠ .ok .help ∧
      ∃ ending, run ["-q", "SELECT\n1"] [] none
          { connectFault := some (.fault ⟨.database, "boom"⟩) } = .ok ending ∧
        ¬ IsLine ending.output := by
  refine ⟨by decide +kernel, ?_⟩
  refine ⟨{ exitCode := 3
            output := "error executing check: query error: cannot connect: boom (SQL: SELECT\n1)\n"
            verbosity := .brief
            journal :=
              ⟨[.openEngine "mysql+pymysql://"
                  [("connect_timeout", "10"), ("read_timeout", "10"), ("write_timeout", "10")],
                .connect, .dispose],
              [⟨.error, "query 失败: cannot connect: boom (SQL: SELECT\n1)"⟩]⟩ },
    by decide +kernel, ?_⟩
  show ¬ IsLine ("error executing check: query error: cannot connect: boom (SQL: SELECT\n1)" ++ "\n")
  rw [isLine_append_iff]
  decide +kernel

end SqlGauge.Program
