import SqlGauge.Proofs.Settings.Layer
import SqlGauge.Proofs.Settings.Words

/-!
# Settings that agree

Two settings may agree by name on some settings and differ in the others (`Settings.AgreeOn`). What
reads the flags of a command line and the annotations of an event gives a setting a value or leaves it
blank, and never asks for the value it had; only validation does, and only for driver and timeout. So if
the environments give settings that agree, the flags and the event leave settings that agree, or fail in
the same way (`Flags.matches_apply`, `Draft.matches_overriddenBy`, `Settings.matches_read`).
-/

namespace SqlGauge

/-! ## Settings and drafts -/

/-- Both have the same value for each of the known settings. -/
def Settings.AgreeOn (known : Setting → Prop) (a b : Settings) : Prop :=
  ∀ setting, known setting → a.get setting = b.get setting

/-- The same settings are blank, and the known ones have the same values. -/
structure Draft.AgreeOn (known : Setting → Prop) (a b : Draft) : Prop where
  settings : a.settings.AgreeOn known b.settings
  blanks : a.blanks = b.blanks

variable {known : Setting → Prop}

theorem Settings.AgreeOn.refl (settings : Settings) : AgreeOn known settings settings :=
  fun _ _ => rfl

theorem Settings.AgreeOn.set {a b : Settings} (h : AgreeOn known a b) (setting : Setting)
    (value : setting.Value) : AgreeOn known (a.set setting value) (b.set setting value) := by
  intro other hother
  by_cases hsame : other = setting
  · subst hsame
    rw [get_set, get_set]
  · rw [get_set_of_ne _ _ hsame, get_set_of_ne _ _ hsame, h other hother]

/-- Setting what is not known does not count. -/
theorem Settings.AgreeOn.set_unknown {a b : Settings} (h : AgreeOn known a b) {setting : Setting}
    (hunknown : ¬ known setting) (value value' : setting.Value) :
    AgreeOn known (a.set setting value) (b.set setting value') := by
  intro other hother
  have hne : other ≠ setting := by
    rintro rfl
    exact hunknown hother
  rw [get_set_of_ne _ _ hne, get_set_of_ne _ _ hne, h other hother]

namespace Draft

variable {a b : Draft}

theorem AgreeOn.set (h : AgreeOn known a b) (setting : Setting) (value : setting.Value) :
    AgreeOn known (a.set setting value) (b.set setting value) where
  settings := h.settings.set setting value
  blanks := congrArg (List.filter (· ≠ setting)) h.blanks

theorem AgreeOn.leave (h : AgreeOn known a b) (setting : Setting) :
    AgreeOn known (a.leave setting) (b.leave setting) where
  settings := h.settings
  blanks := by
    unfold Draft.leave
    rw [h.blanks]

theorem AgreeOn.need_eq (h : AgreeOn known a b) (setting : Setting) (demand : Demand) :
    a.need setting demand = b.need setting demand := by
  unfold need
  rw [h.blanks]

/-- Validation asks for driver and timeout only. -/
theorem AgreeOn.validate_eq (h : AgreeOn known a b) (hdriver : known .driver)
    (htimeout : known .timeout) : a.validate = b.validate := by
  have hdriver : a.settings.driver = b.settings.driver := h.settings .driver hdriver
  have htimeout : a.settings.timeout = b.settings.timeout := h.settings .timeout htimeout
  unfold validate validateDriver Settings.validateDriver Settings.validateTimeout
  rw [h.need_eq, h.blanks, hdriver, htimeout]

/-- What is written for a blank setting does not depend on its value. -/
theorem AgreeOn.filled (h : AgreeOn known a b) : a.filled.AgreeOn known b.filled := by
  have hemptied {a b : Settings} (h : a.AgreeOn known b) (setting : Setting) :
      (emptied a setting).AgreeOn known (emptied b setting) := by
    cases setting with
    | dburl => exact h.set .dburl ""
    | host => exact h.set .host ""
    | user => exact h.set .user ""
    | password => exact h.set .password (Text.bracketed [])
    | database => exact h.set .database ""
    | _ => exact h
  have hfold (blanks : List Setting) {a b : Settings} (h : a.AgreeOn known b) :
      (blanks.foldl emptied a).AgreeOn known (blanks.foldl emptied b) := by
    induction blanks generalizing a b with
    | nil => exact h
    | cons first rest ih => exact ih (hemptied h first)
  unfold Draft.filled
  rw [h.blanks]
  exact hfold b.blanks h.settings

end Draft

/-! ## The environment -/

theorem Setting.exists_convert_of_text {setting : Setting} (h : setting.kind = .text) (raw : Json) :
    ∃ value, setting.convert raw = .ok value := by
  cases setting <;> cases h <;> exact ⟨_, rfl⟩

/-- Environments that agree on the variables of the known settings give settings that agree, if any text
converts to a setting that is not known. -/
theorem Settings.matches_ofEnvironment {environment environment' : Environment}
    (h : ∀ setting, known setting →
      environment.lookup setting.variableName = environment'.lookup setting.variableName)
    (htext : ∀ setting, ¬ known setting → setting.kind = .text) :
    Matches (Settings.AgreeOn known) (ofEnvironment environment) (ofEnvironment environment') := by
  refine .foldlM ?_ (.refl _)
  intro setting _ a b hagree
  by_cases hknown : known setting
  · have hfallback : setting.fallback environment = setting.fallback environment' := by
      unfold Setting.fallback
      rw [h setting hknown]
    rw [hfallback]
    exact .bind (.refl (fun _ => rfl) _) fun value value' hvalue =>
      hvalue ▸ .ok (hagree.set setting value)
  · have hconverts (environment : Environment) :
        ∃ value, setting.fallback environment = .ok value := by
      unfold Setting.fallback
      split
      · exact Setting.exists_convert_of_text (htext setting hknown) _
      · exact ⟨_, rfl⟩
    obtain ⟨value, hvalue⟩ := hconverts environment
    obtain ⟨value', hvalue'⟩ := hconverts environment'
    rw [hvalue, hvalue']
    exact .ok (hagree.set_unknown hknown value value')

/-! ## Flags -/

namespace Flags

/-- What has been taken agrees, so far as it is known. -/
structure Taken.AgreeOn (known : Setting → Prop) (a b : Taken) : Prop where
  draft : a.draft.AgreeOn known b.draft
  items : a.items = b.items
  extras : a.extras = b.extras

variable {a b : Taken}

theorem Taken.AgreeOn.add (h : AgreeOn known a b) (items : List String) :
    AgreeOn known (a.add items) (b.add items) where
  draft := h.draft
  items := congrArg (fun before : Option (List String) => some (before.getD [] ++ items)) h.items
  extras := h.extras

theorem Taken.AgreeOn.leave (h : AgreeOn known a b) (text : List Char) :
    AgreeOn known (Taken.leave a text) (Taken.leave b text) where
  draft := h.draft
  items := h.items
  extras := congrArg (· ++ [text]) h.extras

theorem Taken.AgreeOn.set (h : AgreeOn known a b) (setting : Setting) (value : setting.Value) :
    AgreeOn known { a with draft := a.draft.set setting value }
      { b with draft := b.draft.set setting value } where
  draft := h.draft.set setting value
  items := h.items
  extras := h.extras

theorem agree_leave (h : Taken.AgreeOn known a b) (setting : Setting) :
    Taken.AgreeOn known (leave setting a) (leave setting b) := by
  unfold leave
  split
  · exact h.add []
  · exact ⟨h.draft.leave setting, h.items, h.extras⟩

theorem matches_give (h : Taken.AgreeOn known a b) (spelling : Spelling) (setting : Setting)
    (text : String) :
    Matches (Taken.AgreeOn known) (give spelling setting text a) (give spelling setting text b) := by
  unfold give
  split
  · exact .ok (agree_leave h setting)
  split
  · exact .ok (h.add _)
  split
  · exact .error _
  split
  · exact .ok (h.set setting _)
  · exact .error _

theorem matches_takeSwitch (h : Taken.AgreeOn known a b) (spelling : Spelling) :
    Matches (Taken.AgreeOn known) (takeSwitch a spelling) (takeSwitch b spelling) := by
  unfold takeSwitch
  split
  · exact .error _
  · exact .ok h
  · next switch on _ =>
    cases switch with
    | unquote => exact .ok (h.set .unquote on)
    | debug => exact .ok (h.set .debug on)

theorem matches_takeSettled (h : Taken.AgreeOn known a b) (settled : Settled) :
    Matches (Taken.AgreeOn known) (takeSettled settled a) (takeSettled settled b) := by
  refine .bind (.foldlM (fun spelling _ _ _ hagree => matches_takeSwitch hagree spelling) h) ?_
  intro turned turned' hturned
  split
  · exact .ok hturned
  · exact matches_give hturned _ _ _

theorem matches_takeWords (words : List Word) (h : Taken.AgreeOn known a b) :
    Matches (Taken.AgreeOn known) (takeWords a words) (takeWords b words) := by
  induction words using words_induction generalizing a b with
  | nil => exact .ok h
  | loose word text rest hloose ih =>
    rw [takeWords_loose hloose, takeWords_loose hloose]
    exact ih (h.leave text)
  | flag spelling attached rest ih ihNext =>
    rw [takeWords_flag, takeWords_flag]
    -- which flags there are, and with which values, is found without asking what has been taken
    refine .bind (.refl (fun _ => rfl) _) fun cluster _ hcluster => ?_
    subst hcluster
    refine .bind (.refl (fun _ => rfl) _) fun settled _ hsettled => ?_
    subst hsettled
    refine .bind (matches_takeSettled h settled) fun next next' hnext => ?_
    split
    · exact ihNext hnext
    · exact ih hnext

/-- The flags leave drafts that agree over fallbacks that do. -/
theorem matches_apply {fallbacks fallbacks' : Settings} (h : fallbacks.AgreeOn known fallbacks')
    (arguments : List String) :
    Matches (Draft.AgreeOn known) (apply fallbacks arguments) (apply fallbacks' arguments) := by
  refine .bind (.refl (fun _ => rfl) _) fun words _ hwords => ?_
  subst hwords
  have hstart : Taken.AgreeOn known { draft := { settings := fallbacks } }
      { draft := { settings := fallbacks' } } := ⟨⟨h, rfl⟩, rfl, rfl⟩
  refine .bind (matches_takeWords words hstart) fun taken taken' htaken => ?_
  rw [htaken.items, htaken.extras]
  split
  · exact .error _
  · cases taken'.items with
    | none => exact .ok htaken.draft
    | some items => exact .ok (htaken.draft.set .queryArgs items)

end Flags

/-! ## Events -/

theorem Draft.AgreeOn.override {a b : Draft} (h : AgreeOn known a b) (overrides : List Override) :
    AgreeOn known (a.override overrides) (b.override overrides) := by
  induction overrides generalizing a b with
  | nil => exact h
  | cons first rest ih => exact ih (h.set first.setting first.value)

/-- An event leaves drafts that agree if they did before. -/
theorem Draft.matches_overriddenBy {a b : Draft} (h : AgreeOn known a b) (hdriver : known .driver)
    (htimeout : known .timeout) (event : Json) :
    Matches (AgreeOn known) (a.overriddenBy event) (b.overriddenBy event) := by
  refine .bind (.refl (fun _ => rfl) _) fun overrides _ hoverrides => ?_
  subst hoverrides
  have hchanged := h.override overrides
  split
  · exact .ok h
  · dsimp only
    rw [hchanged.validate_eq hdriver htimeout]
    exact .bind (.refl (fun _ => rfl) _) fun _ _ _ => .ok hchanged

/-! ## Command lines -/

/-- Both ask for help, or both for a check, with drafts that agree. -/
inductive Settings.Request.AgreeOn (known : Setting → Prop) : Request → Request → Prop where
  | help : AgreeOn known .help .help
  | check {a b : Draft} (h : a.AgreeOn known b) : AgreeOn known (.check a) (.check b)

/-- A command line asks for the same with environments that give settings that agree. -/
theorem Settings.matches_read {environment environment' : Environment}
    (h : Matches (Settings.AgreeOn known) (ofEnvironment environment) (ofEnvironment environment'))
    (hdriver : known .driver) (htimeout : known .timeout) (arguments : List String) :
    Matches (Request.AgreeOn known) (read arguments environment) (read arguments environment') := by
  refine .bind h fun fallbacks fallbacks' hfallbacks => ?_
  obtain ⟨stop, hstop, hstop'⟩ | ⟨draft, draft', happly, happly', hdraft⟩ :=
    (Flags.matches_apply hfallbacks arguments).error_or_ok
  · rw [hstop, hstop']
    cases stop with
    | help => exact .ok .help
    | failure failure => exact .error _
  · rw [happly, happly']
    dsimp only
    rw [hdraft.validate_eq hdriver htimeout]
    exact .bind (.refl (fun _ => rfl) _) fun _ _ _ => .ok (.check hdraft)

end SqlGauge
