import SqlGauge.Proofs.Check.Course
import SqlGauge.Proofs.Settings.Trouble
import SqlGauge.Proofs.Settings.Valid

/-!
# What a probe remembers

A probe may be asked for its thresholds, for the judgement of a number, for a check or for a whole
run, in any order and as often as one likes. `Probe.reply` answers one such call and `Probe.replies` a
sequence of them.

All that a probe carries from one call to the next are its thresholds. `Probe.Faithful` says of them
that they are the ones its settings give, if they are known at all. One call keeps that
(`faithful_reply`), and so does a sequence of calls (`faithful_replies`); a faithful probe replies as
a fresh one does (`reply_of_faithful`). So what was asked before does not show in what is replied next
(`reply_after_replies`).
-/

namespace SqlGauge.Probe

/-! ## Calls -/

/-- What may be asked of a probe. -/
inductive Call where
  | thresholds
  | judge (value : Binary64)
  | perform (database : Database)
  | run (database : Database)
deriving DecidableEq

/-- What a probe finds out. -/
inductive Finding where
  | thresholds (thresholds : Thresholds)
  | report (report : Report)
deriving DecidableEq

/-- Replies to a call. -/
def reply (probe : Probe) : Call → Outcome Failure Finding × Probe
  | .thresholds =>
    let (thresholds, next) := probe.readThresholds
    (⟨thresholds.map .thresholds, {}⟩, next)
  | .judge value =>
    let (report, next) := probe.judge value
    (⟨report.map .report, {}⟩, next)
  | .perform database =>
    let (outcome, next) := probe.perform database
    (⟨outcome.result.map .report, outcome.journal⟩, next)
  | .run database =>
    let (checked, next) := probe.run database
    (⟨.ok (.report checked.report), checked.journal⟩, next)

/-- Replies to calls one after another. -/
def replies (probe : Probe) : List Call → List (Outcome Failure Finding) × Probe
  | [] => ([], probe)
  | call :: later =>
    let (first, next) := probe.reply call
    let (others, last) := next.replies later
    (first :: others, last)

/-! ## What is kept -/

/-- The thresholds that are known, if any are, are those of the settings. -/
def Faithful (probe : Probe) : Prop :=
  ∀ known, probe.thresholds = some known → Thresholds.ofSettings probe.settings = .ok known

theorem faithful_fresh (settings : Settings) : Faithful { settings } := by
  intro known h
  cases h

variable {probe : Probe}

/-- Of settings that cannot be used no thresholds are known. -/
theorem Faithful.thresholds_eq_none {failure : Failure} (h : probe.Faithful)
    (hrejected : Thresholds.ofSettings probe.settings = .error failure) : probe.thresholds = none := by
  cases hknown : probe.thresholds with
  | none => rfl
  | some known =>
    rw [h known hknown] at hrejected
    cases hrejected

theorem needThresholds_of_accepted {thresholds : Thresholds} (h : probe.Faithful)
    (haccepted : Thresholds.ofSettings probe.settings = .ok thresholds) :
    probe.needThresholds = (.ok thresholds, { probe with thresholds := some thresholds }) := by
  unfold needThresholds
  cases hknown : probe.thresholds with
  | none => simp [readThresholds, haccepted]
  | some known =>
    have hsame : known = thresholds := by
      rw [h known hknown] at haccepted
      exact Except.ok.inj haccepted
    simp only [← hsame, ← hknown]

theorem needThresholds_of_rejected {failure : Failure} (h : probe.Faithful)
    (hrejected : Thresholds.ofSettings probe.settings = .error failure) :
    probe.needThresholds = (.error failure, probe) := by
  unfold needThresholds
  rw [h.thresholds_eq_none hrejected]
  simp [readThresholds, hrejected]

/-! ## One call -/

/-- What is replied if the thresholds are known. -/
def replyWith (settings : Settings) (thresholds : Thresholds) : Call → Outcome Failure Finding
  | .thresholds => ⟨.ok (.thresholds thresholds), {}⟩
  | .judge value => ⟨.ok (.report (Report.judge thresholds.warning thresholds.critical value)), {}⟩
  | .perform database =>
    let checked := check settings thresholds database
    ⟨.ok (.report checked.report), checked.journal⟩
  | .run database =>
    let checked := check settings thresholds database
    ⟨.ok (.report checked.report), checked.journal⟩

/-- What is replied if the settings cannot be used. -/
def replyWithout (failure : Failure) : Call → Outcome Failure Finding
  | .run _ => ⟨.ok (.report (Report.rejected failure)), .ofLines [rejectionLine failure]⟩
  | _ => ⟨.error failure, {}⟩

/-- After any call the thresholds are known. -/
theorem reply_of_accepted {thresholds : Thresholds} (h : probe.Faithful)
    (haccepted : Thresholds.ofSettings probe.settings = .ok thresholds) (call : Call) :
    probe.reply call =
      (replyWith probe.settings thresholds call, { probe with thresholds := some thresholds }) := by
  cases call with
  | thresholds => simp [reply, replyWith, readThresholds, haccepted, Except.map]
  | judge value =>
    simp [reply, replyWith, judge, needThresholds_of_accepted h haccepted, Except.map]
  | perform database =>
    simp [reply, replyWith, perform, needThresholds_of_accepted h haccepted, Except.map]
  | run database => simp [reply, replyWith, run, readThresholds, haccepted]

/-- Settings that cannot be used leave the probe as it was. -/
theorem reply_of_rejected {failure : Failure} (h : probe.Faithful)
    (hrejected : Thresholds.ofSettings probe.settings = .error failure) (call : Call) :
    probe.reply call = (replyWithout failure call, probe) := by
  cases call with
  | thresholds => simp [reply, replyWithout, readThresholds, hrejected, Except.map]
  | judge value =>
    simp [reply, replyWithout, judge, needThresholds_of_rejected h hrejected, Except.map]
  | perform database =>
    simp [reply, replyWithout, perform, needThresholds_of_rejected h hrejected, Except.map]
  | run database => simp [reply, replyWithout, run, rejected, readThresholds, hrejected]

/-- A call keeps the settings and what is true of the thresholds. -/
theorem faithful_reply (h : probe.Faithful) (call : Call) :
    (probe.reply call).2.settings = probe.settings ∧ (probe.reply call).2.Faithful := by
  cases hthresholds : Thresholds.ofSettings probe.settings with
  | error failure =>
    rw [reply_of_rejected h hthresholds]
    exact ⟨rfl, h⟩
  | ok thresholds =>
    rw [reply_of_accepted h hthresholds]
    refine ⟨rfl, ?_⟩
    intro known hknown
    cases hknown
    exact hthresholds

/-- A faithful probe replies as a fresh one does. -/
theorem reply_of_faithful (h : probe.Faithful) (call : Call) :
    (probe.reply call).1 = (reply { settings := probe.settings } call).1 := by
  have hfresh := faithful_fresh probe.settings
  cases hthresholds : Thresholds.ofSettings probe.settings with
  | error failure => rw [reply_of_rejected h hthresholds, reply_of_rejected hfresh hthresholds]
  | ok thresholds => rw [reply_of_accepted h hthresholds, reply_of_accepted hfresh hthresholds]

/-! ## Many calls -/

theorem faithful_replies (h : probe.Faithful) (calls : List Call) :
    (probe.replies calls).2.settings = probe.settings ∧ (probe.replies calls).2.Faithful := by
  induction calls generalizing probe with
  | nil => exact ⟨rfl, h⟩
  | cons call later ih =>
    obtain ⟨hsettings, hnext⟩ := faithful_reply h call
    obtain ⟨hkept, hlast⟩ := ih hnext
    exact ⟨hkept.trans hsettings, hlast⟩

/-- Thresholds that come of settings are read from their texts. -/
theorem read_of_accepted {settings : Settings} {thresholds : Thresholds}
    (h : Thresholds.ofSettings settings = .ok thresholds) :
    Threshold.read settings.warning = .ok thresholds.warning ∧
      Threshold.read settings.critical = .ok thresholds.critical := by
  have hdraft : Thresholds.ofDraft { settings } = .ok thresholds := by
    rw [Thresholds.ofDraft_complete, h]
    rfl
  have haccepts := Thresholds.ofDraft_eq_ok_iff.mp hdraft
  exact ⟨haccepts.warning, haccepts.critical⟩

theorem kind_of_rejected {settings : Settings} {failure : Failure}
    (h : Thresholds.ofSettings settings = .error failure) : failure.cause.kind = .settings := by
  have hdraft : Thresholds.ofDraft { settings } = .error (.failure failure) := by
    rw [Thresholds.ofDraft_complete, h]
    rfl
  exact (Thresholds.failsAs_ofDraft _ _ hdraft).kind

/-- Whatever a probe has been asked before, it replies like a fresh one. It knows no thresholds or
just those that its settings give, and failing to read them changes nothing. If they can be read, a
check and a whole run are the same; if not, a run is reported as critical and anything else fails. -/
theorem reply_after_replies (settings : Settings) (earlier : List Call) :
    let probe := (replies { settings } earlier).2
    (∀ call, (probe.reply call).1 = (reply { settings } call).1) ∧
      (probe.thresholds = none ∨ ∃ known, probe.thresholds = some known ∧
        Threshold.read settings.warning = .ok known.warning ∧
        Threshold.read settings.critical = .ok known.critical) ∧
      (∀ failure, (probe.reply .thresholds).1.result = .error failure →
        (probe.reply .thresholds).2 = probe) ∧
      match (probe.reply .thresholds).1.result with
      | .ok _ => ∀ database, (probe.reply (.perform database)).1 = (probe.reply (.run database)).1
      | .error failure =>
        failure.cause.kind = .settings ∧
          (∀ value, (probe.reply (.judge value)).1 = ⟨.error failure, {}⟩) ∧
          (∀ database, (probe.reply (.perform database)).1 = ⟨.error failure, {}⟩) ∧
          ∀ database, ∃ report lines,
            (probe.reply (.run database)).1 = ⟨.ok (.report report), .ofLines lines⟩ ∧
              report.state = .critical ∧
              report.message = "error validating input: " ++ failure.message := by
  intro probe
  obtain ⟨hsettings, hfaithful⟩ : probe.settings = settings ∧ probe.Faithful :=
    faithful_replies (faithful_fresh settings) earlier
  have hfresh : ∀ call, (probe.reply call).1 = (reply { settings } call).1 := by
    intro call
    rw [reply_of_faithful hfaithful, hsettings]
  have hknown : probe.thresholds = none ∨ ∃ known, probe.thresholds = some known ∧
      Threshold.read settings.warning = .ok known.warning ∧
      Threshold.read settings.critical = .ok known.critical := by
    cases hthresholds : probe.thresholds with
    | none => exact .inl rfl
    | some known =>
      have haccepted := hfaithful known hthresholds
      rw [hsettings] at haccepted
      exact .inr ⟨known, rfl, read_of_accepted haccepted⟩
  refine ⟨hfresh, hknown, ?_⟩
  cases hthresholds : Thresholds.ofSettings probe.settings with
  | ok thresholds =>
    have hreply := reply_of_accepted hfaithful hthresholds
    rw [hreply .thresholds]
    refine ⟨?_, ?_⟩
    · intro failure hfailure
      cases hfailure
    · intro database
      rw [hreply, hreply]
      rfl
  | error failure =>
    have hreply := reply_of_rejected hfaithful hthresholds
    rw [hreply .thresholds]
    refine ⟨fun _ _ => rfl, kind_of_rejected hthresholds, ?_, ?_, ?_⟩
    · intro value
      rw [hreply]
      rfl
    · intro database
      rw [hreply]
      rfl
    · intro database
      rw [hreply]
      exact ⟨Report.rejected failure, [rejectionLine failure], rfl, rfl, rfl⟩

end SqlGauge.Probe
