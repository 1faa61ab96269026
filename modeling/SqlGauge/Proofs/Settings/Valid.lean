import SqlGauge.Probe.Draft
import SqlGauge.Proofs.Result
import SqlGauge.Settings.Annotations
import SqlGauge.Settings.Flags

/-!
# Drafts that passed validation

A draft is valid if its driver is there and it waits for some time; neither setting may be blank then.
The settings that a command line gives are valid (`Settings.valid_of_read`), and after an event they
still are (`Draft.valid_of_overriddenBy`): either nothing was overridden, or what came of it was
validated again. `Thresholds.Accepts` says what else a check needs: two thresholds and a query.
-/

namespace SqlGauge

namespace Draft

/-- What the validation of a draft makes sure of. -/
structure Valid (draft : Draft) : Prop where
  driverGiven : .driver ∉ draft.blanks
  driver : draft.settings.driver ∈ Settings.allowedDrivers
  timeoutGiven : .timeout ∉ draft.blanks
  timeout : draft.settings.timeout.le (.zero false) = false

theorem need_eq_ok_iff {draft : Draft} {setting : Setting} {demand : Demand} {done : Unit} :
    draft.need setting demand = .ok done ↔ setting ∉ draft.blanks := by
  unfold need
  split
  · next h => simp [h]
  · next h => simp [h]

theorem need_eq_error_iff {draft : Draft} {setting : Setting} {demand : Demand}
    {refusal : Refusal} :
    draft.need setting demand = .error refusal ↔
      setting ∈ draft.blanks ∧ refusal = .emptyList demand := by
  unfold need
  split
  · next h => simp [h, eq_comm]
  · next h => simp [h]

theorem validateDriver_eq_ok_iff {draft : Draft} {done : Unit} :
    draft.validateDriver = .ok done ↔
      .driver ∉ draft.blanks ∧ draft.settings.driver ∈ Settings.allowedDrivers := by
  unfold validateDriver Settings.validateDriver
  split
  · next h => simp [h]
  · next h =>
    split
    · next hdriver => simp [h, hdriver]
    · next hdriver => simp [hdriver]

theorem validate_eq_ok_iff {draft : Draft} {done : Unit} :
    draft.validate = .ok done ↔ draft.Valid := by
  have htimeout {done : Unit} : draft.settings.validateTimeout = .ok done ↔
      draft.settings.timeout.le (.zero false) = false := by
    unfold Settings.validateTimeout
    split
    · next h => simp [h]
    · next h => simpa using h
  unfold validate
  simp only [bind_eq_ok_iff, mapError_eq_ok_iff, validateDriver_eq_ok_iff, need_eq_ok_iff, htimeout]
  constructor
  · rintro ⟨_, ⟨hdriverGiven, hdriver⟩, _, htimeoutGiven, htimeout⟩
    exact ⟨hdriverGiven, hdriver, htimeoutGiven, htimeout⟩
  · intro h
    exact ⟨(), ⟨h.driverGiven, h.driver⟩, (), h.timeoutGiven, h.timeout⟩

/-- The only value that validation refuses is a blank timeout. The driver comes first. -/
theorem validate_eq_refusal_iff {draft : Draft} {refusal : Refusal} :
    draft.validate = .error (.refusal refusal) ↔
      (.driver ∉ draft.blanks ∧ draft.settings.driver ∈ Settings.allowedDrivers) ∧
        .timeout ∈ draft.blanks ∧ refusal = .emptyList .atMost := by
  unfold validate
  simp only [bind_eq_error_iff, mapError_eq_error_iff, mapError_eq_ok_iff, validateDriver_eq_ok_iff,
    need_eq_error_iff, Trouble.refusal.injEq, reduceCtorEq, and_false, exists_false, false_or,
    or_false, exists_eq_right, exists_const]

/-! ## Overriding -/

theorem blanks_override {draft : Draft} {overrides : List Override} {setting : Setting}
    (h : setting ∈ (draft.override overrides).blanks) : setting ∈ draft.blanks := by
  induction overrides generalizing draft with
  | nil => exact h
  | cons first rest ih => exact (mem_blanks_set.mp (ih h)).1

/-- What an event makes of settings: the same, or what was validated anew. -/
theorem overriddenBy_eq_ok_iff {draft after : Draft} {event : Json} :
    draft.overriddenBy event = .ok after ↔
      ∃ overrides, Annotations.ofEvent event = .ok overrides ∧
        after = draft.override overrides ∧ (overrides = [] ∨ after.Valid) := by
  unfold overriddenBy
  rw [bind_eq_ok_iff]
  refine exists_congr fun overrides => and_congr_right fun _ => ?_
  cases overrides with
  | nil =>
    constructor
    · intro h
      cases h
      exact ⟨rfl, .inl rfl⟩
    · rintro ⟨rfl, _⟩
      rfl
  | cons first rest =>
    show ((draft.override (first :: rest)).validate >>= fun _ =>
      pure (draft.override (first :: rest))) = .ok after ↔ _
    rw [bind_eq_ok_iff]
    constructor
    · rintro ⟨_, hvalid, h⟩
      cases h
      exact ⟨rfl, .inr (validate_eq_ok_iff.mp hvalid)⟩
    · rintro ⟨rfl, h⟩
      exact ⟨(), validate_eq_ok_iff.mpr (h.resolve_left (List.cons_ne_nil _ _)), rfl⟩

theorem valid_of_overriddenBy {draft after : Draft} {event : Json} (h : draft.Valid)
    (hafter : draft.overriddenBy event = .ok after) : after.Valid := by
  obtain ⟨overrides, _, rfl, hnil | hvalid⟩ := overriddenBy_eq_ok_iff.mp hafter
  · subst hnil
    exact h
  · exact hvalid

/-- Nothing that was given becomes blank by an event, so a refused value is one of the event. -/
theorem overriddenBy_eq_refusal_iff {draft : Draft} {event : Json} {refusal : Refusal}
    (h : draft.Valid) :
    draft.overriddenBy event = .error (.refusal refusal) ↔
      Annotations.ofEvent event = .error (.refusal refusal) := by
  unfold overriddenBy
  rw [bind_eq_error_iff, or_iff_left]
  rintro ⟨overrides, _, hrefused⟩
  cases overrides with
  | nil => cases hrefused
  | cons first rest =>
    rcases bind_eq_error_iff.mp hrefused with hinvalid | ⟨_, _, hdone⟩
    · obtain ⟨_, htimeout, _⟩ := validate_eq_refusal_iff.mp hinvalid
      exact h.timeoutGiven (blanks_override htimeout)
    · cases hdone

/-! ## Blank settings that are written out -/

/-- What is written for a blank setting does not touch the driver. -/
theorem driver_filled (draft : Draft) : draft.filled.driver = draft.settings.driver := by
  have hfold (blanks : List Setting) (settings : Settings) :
      (blanks.foldl emptied settings).driver = settings.driver := by
    induction blanks generalizing settings with
    | nil => rfl
    | cons first rest ih =>
      rw [List.foldl_cons, ih]
      cases first <;> rfl
  exact hfold draft.blanks draft.settings

end Draft

namespace Settings

/-- A command line that asks for a check gives settings over those of the environment, and they are
valid. -/
theorem read_eq_check_iff {arguments : List String} {environment : Environment} {draft : Draft} :
    read arguments environment = .ok (.check draft) ↔
      ∃ fallbacks, ofEnvironment environment = .ok fallbacks ∧
        Flags.apply fallbacks arguments = .ok draft ∧ draft.Valid := by
  unfold read
  rw [bind_eq_ok_iff]
  refine exists_congr fun fallbacks => and_congr_right fun _ => ?_
  cases Flags.apply fallbacks arguments with
  | error stop => cases stop <;> simp [pure, Except.pure]
  | ok given =>
    dsimp only
    rw [bind_eq_ok_iff]
    constructor
    · rintro ⟨_, hvalid, h⟩
      cases h
      exact ⟨rfl, Draft.validate_eq_ok_iff.mp hvalid⟩
    · rintro ⟨hgiven, hvalid⟩
      cases hgiven
      exact ⟨(), Draft.validate_eq_ok_iff.mpr hvalid, rfl⟩

theorem valid_of_read {arguments : List String} {environment : Environment} {draft : Draft}
    (h : read arguments environment = .ok (.check draft)) : draft.Valid := by
  obtain ⟨_, _, _, hvalid⟩ := read_eq_check_iff.mp h
  exact hvalid

end Settings

/-! ## Thresholds -/

namespace Thresholds

theorem readFlag_eq_ok_iff {name spec : String} {threshold : Threshold} :
    readFlag name spec = .ok threshold ↔ Threshold.read spec = .ok threshold :=
  mapError_eq_ok_iff

/-- A draft is accepted if neither threshold is blank and both can be read, and there is a query. -/
structure Accepts (draft : Draft) (thresholds : Thresholds) : Prop where
  warningGiven : .warning ∉ draft.blanks
  warning : Threshold.read draft.settings.warning = .ok thresholds.warning
  criticalGiven : .critical ∉ draft.blanks
  critical : Threshold.read draft.settings.critical = .ok thresholds.critical
  queryGiven : .query ∉ draft.blanks
  query : Text.isBlankText draft.settings.query = false

theorem ofDraft_eq_ok_iff {draft : Draft} {thresholds : Thresholds} :
    ofDraft draft = .ok thresholds ↔ Accepts draft thresholds := by
  unfold ofDraft
  simp only [bind_eq_ok_iff, mapError_eq_ok_iff, Draft.need_eq_ok_iff, readFlag_eq_ok_iff]
  constructor
  · rintro ⟨_, hwarning, warning, hreadWarning, _, hcritical, critical, hreadCritical, _, hquery, h⟩
    split at h
    · cases h
    · next hblank =>
      cases h
      exact ⟨hwarning, hreadWarning, hcritical, hreadCritical, hquery, Bool.eq_false_iff.mpr hblank⟩
  · intro h
    refine ⟨(), h.warningGiven, thresholds.warning, h.warning, (), h.criticalGiven,
      thresholds.critical, h.critical, (), h.queryGiven, ?_⟩
    rw [h.query]
    rfl

end Thresholds

end SqlGauge
