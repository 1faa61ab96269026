import SqlGauge.Proofs.Result
import SqlGauge.Settings.Convert

/-!
# Where settings come from

A `Layer` may say something of a setting: a value, or what does not convert to one. Settings follow a
layer if each has the value that is said of it, and the one it had before if nothing is said
(`Settings.Follows`). There are no two settings that follow the same layer after the same ones
(`Settings.Follows.unique`), so this says all there is to say about them.

What follows one layer after settings that follow another one follows both, the later one first
(`Settings.Follows.trans`, `Layer.above`). The environment is a layer over the built-in values
(`Settings.ofEnvironment_eq_ok_iff`).
-/

namespace SqlGauge

/-! ## Layers -/

/-- What is said of each setting, if anything is: a value, or trouble with it. -/
abbrev Layer : Type :=
  (setting : Setting) → Option (Except Trouble setting.Value)

namespace Layer

/-- What one layer says, and what another one says of the settings left. -/
def above (upper lower : Layer) : Layer :=
  fun setting => (upper setting).or (lower setting)

/-- What a text for one setting says. -/
def one (setting : Setting) (text : String) : Layer :=
  fun other => if setting = other then some (other.convert (.string text)) else none

theorem one_same (setting : Setting) (text : String) :
    one setting text setting = some (setting.convert (.string text)) :=
  if_pos rfl

theorem one_of_ne {setting other : Setting} (text : String) (h : setting ≠ other) :
    one setting text other = none :=
  if_neg h

/-- Whatever is said is a value. -/
def Converts (layer : Layer) : Prop :=
  ∀ setting said, layer setting = some said → ∃ value, said = .ok value

theorem converts_iff {layer : Layer} :
    layer.Converts ↔ ∀ setting ∈ Setting.all, (layer setting).all Except.isOk = true := by
  constructor
  · intro h setting _
    cases hsaid : layer setting with
    | none => rfl
    | some said =>
      obtain ⟨value, rfl⟩ := h setting said hsaid
      rfl
  · intro h setting said hsaid
    have hok := h setting setting.mem_all
    rw [hsaid] at hok
    cases said with
    | ok value => exact ⟨value, rfl⟩
    | error trouble => cases hok

instance (layer : Layer) : Decidable layer.Converts :=
  decidable_of_iff' _ converts_iff

end Layer

namespace Settings

/-- Each setting has the value that is said of it, and its value from before if nothing is. -/
def Follows (layer : Layer) (before after : Settings) : Prop :=
  ∀ setting, (layer setting).getD (.ok (before.get setting)) = .ok (after.get setting)

variable {layer upper lower : Layer} {before middle after other : Settings}

theorem Follows.get_of_said (h : Follows layer before after) {setting : Setting}
    {said : Except Trouble setting.Value} (hsaid : layer setting = some said) :
    said = .ok (after.get setting) := by
  have hget := h setting
  rw [hsaid] at hget
  exact hget

theorem Follows.get_of_silent (h : Follows layer before after) {setting : Setting}
    (hsilent : layer setting = none) : after.get setting = before.get setting := by
  have hget := h setting
  rw [hsilent] at hget
  exact (Except.ok.inj hget).symm

theorem Follows.unique (h : Follows layer before after) (hother : Follows layer before other) :
    after = other := by
  refine ext_get ?_
  intro setting
  exact Except.ok.inj ((h setting).symm.trans (hother setting))

/-- A later layer comes first. -/
theorem Follows.trans (h : Follows lower before middle) (hlater : Follows upper middle after) :
    Follows (upper.above lower) before after := by
  intro setting
  show ((upper setting).or (lower setting)).getD (.ok (before.get setting)) = .ok (after.get setting)
  cases hsaid : upper setting with
  | some said => exact hlater.get_of_said hsaid
  | none =>
    rw [hlater.get_of_silent hsaid]
    exact h setting

/-- Settings that follow a layer follow it again. -/
theorem Follows.again (h : Follows layer before after) : Follows layer after after := by
  intro setting
  cases hsaid : layer setting with
  | some said => exact h.get_of_said hsaid
  | none => rfl

/-- Where nothing is said everything stays. -/
theorem follows_iff_of_silent (h : ∀ setting, layer setting = none) :
    Follows layer before after ↔ after = before := by
  constructor
  · intro hfollows
    exact ext_get fun setting => hfollows.get_of_silent (h setting)
  · rintro rfl setting
    rw [h setting]
    rfl

/-! ## The environment -/

/-- Setting one value after another gives each setting its own, and leaves the others alone. -/
theorem foldlM_set_eq_ok_iff {read : (setting : Setting) → Except Trouble setting.Value}
    {settings : List Setting} (hdistinct : settings.Nodup) :
    settings.foldlM (fun (settings : Settings) setting => do
        return settings.set setting (← read setting)) before = .ok after ↔
      (∀ setting ∈ settings, read setting = .ok (after.get setting)) ∧
        ∀ setting, setting ∉ settings → after.get setting = before.get setting := by
  induction settings generalizing before with
  | nil =>
    constructor
    · intro h
      cases h
      exact ⟨List.forall_mem_nil _, fun _ _ => rfl⟩
    · rintro ⟨_, hsame⟩
      rw [ext_get fun setting => hsame setting List.not_mem_nil]
      rfl
  | cons first rest ih =>
    obtain ⟨hfirst, hrest⟩ := List.nodup_cons.mp hdistinct
    rw [List.foldlM_cons, bind_eq_ok_iff, List.forall_mem_cons]
    constructor
    · rintro ⟨next, hnext, hfold⟩
      obtain ⟨value, hvalue, hnext⟩ := bind_eq_ok_iff.mp hnext
      cases hnext
      obtain ⟨hread, hsame⟩ := (ih hrest).mp hfold
      refine ⟨⟨?_, hread⟩, ?_⟩
      · -- the first setting does not come again
        rw [hsame first hfirst, get_set]
        exact hvalue
      · intro setting hsetting
        rw [List.mem_cons, not_or] at hsetting
        rw [hsame setting hsetting.2, get_set_of_ne _ _ hsetting.1]
    · rintro ⟨⟨hvalue, hread⟩, hsame⟩
      refine ⟨before.set first (after.get first), bind_eq_ok_iff.mpr ⟨_, hvalue, rfl⟩, ?_⟩
      refine (ih hrest).mpr ⟨hread, ?_⟩
      intro setting hsetting
      by_cases hsame' : setting = first
      · subst hsame'
        rw [get_set]
      · rw [get_set_of_ne _ _ hsame']
        exact hsame setting (List.not_mem_cons_of_ne_of_not_mem hsame' hsetting)

end Settings

/-- What the environment says. -/
def Environment.layer (environment : Environment) : Layer :=
  fun setting => (environment.lookup setting.variableName).map fun text =>
    setting.convert (.string text)

theorem Setting.fallback_eq (setting : Setting) (environment : Environment) :
    setting.fallback environment =
      (Environment.layer environment setting).getD (.ok (({} : Settings).get setting)) := by
  unfold Setting.fallback Environment.layer
  cases environment.lookup setting.variableName <;> rfl

/-- The environment is followed after the built-in values. -/
theorem Settings.ofEnvironment_eq_ok_iff {environment : Environment} {settings : Settings} :
    ofEnvironment environment = .ok settings ↔
      Follows (Environment.layer environment) {} settings := by
  have hdistinct : Setting.all.Nodup := by decide
  unfold ofEnvironment
  rw [foldlM_set_eq_ok_iff hdistinct]
  constructor
  · rintro ⟨hread, _⟩ setting
    rw [← Setting.fallback_eq]
    exact hread setting setting.mem_all
  · intro hfollows
    refine ⟨?_, fun setting hsetting => absurd setting.mem_all hsetting⟩
    intro setting _
    rw [Setting.fallback_eq]
    exact hfollows setting

/-- An environment whose variables convert can be read. -/
theorem Settings.exists_ofEnvironment {environment : Environment}
    (h : (Environment.layer environment).Converts) :
    ∃ settings, ofEnvironment environment = .ok settings := by
  refine exists_foldlM ?_ Setting.all ({} : Settings)
  intro settings setting
  obtain ⟨value, hvalue⟩ : ∃ value, setting.fallback environment = .ok value := by
    rw [Setting.fallback_eq]
    cases hsaid : Environment.layer environment setting with
    | none => exact ⟨_, rfl⟩
    | some said => exact h setting said hsaid
  exact ⟨settings.set setting value, bind_eq_ok_iff.mpr ⟨value, hvalue, rfl⟩⟩

end SqlGauge
