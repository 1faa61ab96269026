import SqlGauge.Proofs.Address.Scheme
import SqlGauge.Proofs.Check.Course
import SqlGauge.Proofs.Settings.Congruence

/-!
# Addresses that are given as a whole

With an address that is given as a whole, the settings for its parts do not count: settings that agree on
all others make the same check, and the parts may even be blank (`Probe.runDraft_eq_of_whole`). Which
scheme of a family the address starts with does not count either, and a scheme that is no alias stays as
it is (`Session.start_whole`).
-/

namespace SqlGauge

/-- A setting that is only good for the address that is put together from parts. -/
def Setting.IsPart (setting : Setting) : Prop :=
  setting ∈ [driver, host, port, user, password, database]

instance (setting : Setting) : Decidable setting.IsPart :=
  inferInstanceAs (Decidable (_ ∈ _))

open Setting (IsPart)

/-! ## Settings for the parts -/

section

variable {a b : Settings}

theorem Address.ofSettings_eq_of_whole (h : a.AgreeOn (¬ ·.IsPart) b) (whole : a.dburl ≠ "") :
    ofSettings a = ofSettings b := by
  have hdburl : a.dburl = b.dburl := h .dburl (by decide)
  rw [ofSettings_of_whole whole, ofSettings_of_whole (hdburl ▸ whole), hdburl]

theorem Session.start_congr (haddress : Address.ofSettings a = Address.ofSettings b)
    (htimeout : a.timeout = b.timeout) (database : Database) :
    start a database = start b database := by
  unfold start
  rw [haddress, htimeout]

theorem Probe.check_eq_of_whole (h : a.AgreeOn (¬ ·.IsPart) b) (whole : a.dburl ≠ "")
    (thresholds : Thresholds) (database : Database) :
    check a thresholds database = check b thresholds database := by
  have hstart := Session.start_congr (Address.ofSettings_eq_of_whole h whole)
    (h .timeout (by decide)) database
  have hask := ask_congr (h .query (by decide)) (h .queryArgs (by decide)) (h .unquote (by decide))
    thresholds database
  unfold check
  rw [hstart, hask]

end

/-! ## Drafts and probes -/

namespace Draft

/-- Settings that are no parts are blank in both or in none, and have the same values. -/
structure SameBeside (a b : Draft) : Prop where
  settings : a.settings.AgreeOn (¬ ·.IsPart) b.settings
  blanks : ∀ setting, ¬ setting.IsPart → (setting ∈ a.blanks ↔ setting ∈ b.blanks)

theorem SameBeside.need_eq {a b : Draft} (h : a.SameBeside b) {setting : Setting}
    (beside : ¬ setting.IsPart) (demand : Demand) : a.need setting demand = b.need setting demand :=
  if_congr (h.blanks setting beside) rfl rfl

/-- Only parts are emptied, apart from the address itself. -/
theorem emptied_agreeOn {a b : Settings} (h : a.AgreeOn (¬ ·.IsPart) b) {setting : Setting}
    (hne : setting ≠ .dburl) : (emptied a setting).AgreeOn (¬ ·.IsPart) b := by
  cases setting with
  | dburl => exact absurd rfl hne
  | host => exact @Settings.AgreeOn.set_unknown _ _ _ h .host (by decide) "" b.host
  | user => exact @Settings.AgreeOn.set_unknown _ _ _ h .user (by decide) "" b.user
  | password =>
    exact @Settings.AgreeOn.set_unknown _ _ _ h .password (by decide) (Text.bracketed []) b.password
  | database => exact @Settings.AgreeOn.set_unknown _ _ _ h .database (by decide) "" b.database
  | _ => exact h

theorem filled_agreeOn {draft : Draft} (whole : .dburl ∉ draft.blanks) :
    draft.filled.AgreeOn (¬ ·.IsPart) draft.settings := by
  have hfold (blanks : List Setting) (hblanks : .dburl ∉ blanks) {a b : Settings}
      (h : a.AgreeOn (¬ ·.IsPart) b) : (blanks.foldl emptied a).AgreeOn (¬ ·.IsPart) b := by
    induction blanks generalizing a with
    | nil => exact h
    | cons first rest ih =>
      obtain ⟨hfirst, hrest⟩ := List.ne_and_not_mem_of_not_mem_cons hblanks
      exact ih hrest (emptied_agreeOn h hfirst.symm)
  exact hfold draft.blanks whole (.refl draft.settings)

theorem SameBeside.filled {a b : Draft} (h : a.SameBeside b) (whole : .dburl ∉ a.blanks) :
    a.filled.AgreeOn (¬ ·.IsPart) b.filled := by
  have hwhole : .dburl ∉ b.blanks := mt (h.blanks .dburl (by decide)).mpr whole
  intro setting beside
  rw [filled_agreeOn whole setting beside, h.settings setting beside,
    filled_agreeOn hwhole setting beside]

end Draft

theorem Thresholds.ofDraft_eq_of_sameBeside {a b : Draft} (h : a.SameBeside b) :
    ofDraft a = ofDraft b := by
  have hbeside : ∀ setting ∈ [Setting.warning, .critical, .query], ¬ setting.IsPart := by decide
  exact ofDraft_congr (fun setting hsetting => h.need_eq (hbeside setting hsetting))
    fun setting hsetting => h.settings setting (hbeside setting hsetting)

namespace Probe

theorem needPort_of_whole {draft : Draft} (whole : draft.filled.dburl ≠ "") :
    needPort draft = .ok () :=
  if_neg whole

/-- With an address that is given as a whole, its parts do not count, blank or not. -/
theorem runDraft_eq_of_whole {a b : Draft} (h : a.SameBeside b) (given : .dburl ∉ a.blanks)
    (whole : a.settings.dburl ≠ "") (database : Database) :
    runDraft a database = runDraft b database := by
  have hfilled := h.filled given
  have hdburl : a.filled.dburl = a.settings.dburl := Draft.filled_agreeOn given .dburl (by decide)
  have hdburl' : a.filled.dburl = b.filled.dburl := hfilled .dburl (by decide)
  have hwhole : a.filled.dburl ≠ "" := hdburl ▸ whole
  have hwhole' : b.filled.dburl ≠ "" := hdburl' ▸ hwhole
  unfold runDraft
  rw [Thresholds.ofDraft_eq_of_sameBeside h, needPort_of_whole hwhole, needPort_of_whole hwhole']
  split
  · rfl
  · rfl
  · exact congrArg Except.ok (check_eq_of_whole hfilled hwhole _ database)

/-- What a probe makes of a database with an address that is given as a whole does not depend on the
settings for its parts. -/
theorem run_eq_of_whole {probe other : Probe} (h : probe.settings.AgreeOn (¬ ·.IsPart) other.settings)
    (whole : probe.settings.dburl ≠ "") (database : Database) :
    (probe.run database).1 = (other.run database).1 := by
  have hsame : Draft.SameBeside { settings := probe.settings } { settings := other.settings } :=
    ⟨h, fun _ _ => Iff.rfl⟩
  have hrun := runDraft_eq_of_whole hsame List.not_mem_nil whole database
  rw [runDraft_complete, runDraft_complete, run_forgetful, run_forgetful] at hrun
  exact Except.ok.inj hrun

end Probe

/-! ## Whole addresses -/

/-- An address that is given as a whole is found in one way: each scheme of a family will do, any other
scheme stays as it is, and the settings for the parts do not count. -/
theorem Session.start_whole (settings : Settings) (database : Database) :
    (∀ family ∈ Address.families, ∀ a ∈ family.schemes, ∀ b ∈ family.schemes, ∀ rest,
        Address.ofSettings { settings with dburl := a ++ "://" ++ rest } =
            Address.ofSettings { settings with dburl := b ++ "://" ++ rest } ∧
          start { settings with dburl := a ++ "://" ++ rest } database =
            start { settings with dburl := b ++ "://" ++ rest } database) ∧
      (∀ address, settings.dburl ≠ "" → Address.read settings.dburl = .ok address →
        (∀ family ∈ Address.families, address.scheme ∉ family.aliases) →
          Address.ofSettings settings = .ok address) ∧
      (∀ probe other : Probe, probe.settings.dburl ≠ "" →
        probe.settings.AgreeOn (¬ ·.IsPart) other.settings →
          (probe.run database).1 = (other.run database).1) := by
  refine ⟨fun family known a ha b hb rest => ?_, fun address whole found other => ?_,
    fun _ _ whole hagree => Probe.run_eq_of_whole hagree whole database⟩
  · have haddress : Address.ofSettings { settings with dburl := a ++ "://" ++ rest } =
        Address.ofSettings { settings with dburl := b ++ "://" ++ rest } := by
      rw [Address.ofSettings_of_family settings known ha, Address.ofSettings_of_family settings known hb]
    exact ⟨haddress, start_congr haddress rfl database⟩
  · exact Address.ofSettings_of_other whole found other

end SqlGauge
