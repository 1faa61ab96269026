import SqlGauge.Proofs.Settings.Annotations

/-!
# What an event overrides

An event overrides settings by the annotations of its check and of its entity, those of the entity
before those of the check. Annotations that convert are followed, and what comes of them is validated
if any of them is about a setting (`Settings.exists_overriddenBy`). `Annotations.Overridden` describes
what an event makes of settings then, and `Annotations.Unfit` why it fails otherwise; each is an
equivalence (`Settings.overriddenBy_eq_ok_iff`, `Settings.exists_overriddenBy_error_iff`).

`Settings.overriddenBy_event` puts this together. It follows from the description that the same event
does nothing more, and that the order of the annotations does not count. The keys of the event have to be
distinct for this, as those of any event that was read are (`Program.wellFormed_readEvent`).
-/

namespace SqlGauge

namespace Annotations

/-! ## Events -/

/-- An event with a check and an entity. -/
inductive About : Json → List (String × Json) → List (String × Json) → Prop where
  | of {fields check entity : List (String × Json)}
      (hcheck : Json.field? "check" fields = some (.object check))
      (hentity : Json.field? "entity" fields = some (.object entity)) :
      About (.object fields) check entity

theorem requiredPart_eq_ok_iff {name : String} {event part : List (String × Json)} :
    requiredPart name event = .ok part ↔ Json.field? name event = some (.object part) := by
  unfold requiredPart
  constructor
  · intro h
    split at h
    · next hfield =>
      cases h
      exact hfield
    · cases h
  · intro h
    rw [h]

section About

variable {event : Json} {check entity : List (String × Json)}

theorem About.ofEvent (h : About event check entity) :
    ofEvent event = (do
      let first ← ofPart check
      let second ← ofPart entity
      return first ++ second) := by
  cases h with
  | of hcheck hentity =>
    exact ofEvent_of_parts (requiredPart_eq_ok_iff.mpr hcheck) (requiredPart_eq_ok_iff.mpr hentity)

theorem About.wellFormed (h : About event check entity) (hevent : event.WellFormed) :
    (Json.object check).WellFormed ∧ (Json.object entity).WellFormed := by
  cases h with
  | of hcheck hentity =>
    exact ⟨Json.wellFormed_of_field? hevent hcheck, Json.wellFormed_of_field? hevent hentity⟩

/-- A value that an event refuses is the one of an annotation in it. -/
theorem About.exists_of_refuses {kind : ScalarKind} (h : About event check entity)
    (hrefuses : EventRefuses event kind) :
    ∃ annotations raw, (Annotated check annotations ∨ Annotated entity annotations) ∧
      (keyspace ++ Setting.queryArgs.path, raw) ∈ annotations ∧ Unlistable raw kind := by
  cases h with
  | of hcheck hentity =>
    cases hrefuses with
    | check hpart _ hannotations hrefuses =>
      rw [requiredPart_eq_ok_iff, hcheck] at hpart
      cases hpart
      obtain ⟨before, raw, after, rfl, _, hraw⟩ := hrefuses
      refine ⟨_, raw, .inl (annotationsOf_eq_ok_iff.mp hannotations), ?_, hraw⟩
      exact List.mem_append_right _ List.mem_cons_self
    | entity _ hpart _ _ hannotations hrefuses =>
      rw [requiredPart_eq_ok_iff, hentity] at hpart
      cases hpart
      obtain ⟨before, raw, after, rfl, _, hraw⟩ := hrefuses
      refine ⟨_, raw, .inr (annotationsOf_eq_ok_iff.mp hannotations), ?_, hraw⟩
      exact List.mem_append_right _ List.mem_cons_self

/-- What the annotations of check and entity make of settings. -/
inductive Overridden (check entity : List (String × Json)) (before after : Settings) : Prop where
  | of {first second : List (String × Json)} (hfirst : Annotated check first)
      (hsecond : Annotated entity second) (converts : Converts first) (others : Converts second)
      (follows : Settings.Follows ((layer second).above (layer first)) before after)
      (valid : Concerns first ∨ Concerns second → after.validate = .ok ()) :
      Overridden check entity before after

/-- Why the annotations of check and entity make nothing of settings. -/
inductive Unfit (check entity : List (String × Json)) (before : Settings) : Prop where
  | check (h : Misfit check)
  | entity (h : Misfit entity)
  | first {annotations : List (String × Json)} (hannotations : Annotated check annotations)
      (h : ¬ Converts annotations)
  | second {annotations : List (String × Json)} (hannotations : Annotated entity annotations)
      (h : ¬ Converts annotations)
  | invalid {first second : List (String × Json)} {after : Settings} {failure : Failure}
      (hfirst : Annotated check first) (hsecond : Annotated entity second)
      (concerns : Concerns first ∨ Concerns second)
      (follows : Settings.Follows ((layer second).above (layer first)) before after)
      (h : after.validate = .error failure)

theorem Overridden.not_unfit {before after : Settings} (h : Overridden check entity before after) :
    ¬ Unfit check entity before := by
  intro hunfit
  obtain ⟨hfirst, hsecond, hconverts, hothers, hfollows, hvalid⟩ := h
  cases hunfit with
  | check h => exact hfirst.not_misfit h
  | entity h => exact hsecond.not_misfit h
  | first hannotations h => exact h (hannotations.unique hfirst ▸ hconverts)
  | second hannotations h => exact h (hannotations.unique hsecond ▸ hothers)
  | invalid hfirst' hsecond' concerns follows h =>
    cases hfirst'.unique hfirst
    cases hsecond'.unique hsecond
    cases follows.unique hfollows
    rw [hvalid concerns] at h
    cases h

/-- What annotations make of valid settings is valid. -/
theorem Overridden.valid {before after : Settings} (h : Overridden check entity before after)
    (hbefore : before.validate = .ok ()) : after.validate = .ok () := by
  cases h with
  | @of first second _ _ _ _ hfollows hvalid =>
    by_cases hconcerns : Concerns first ∨ Concerns second
    · exact hvalid hconcerns
    · rw [(follows_iff_of_not_concerns hconcerns).mp hfollows]
      exact hbefore

/-- The annotations make the same of what they made already. -/
theorem Overridden.again {before after : Settings} (h : Overridden check entity before after) :
    Overridden check entity after after := by
  obtain ⟨hfirst, hsecond, hconverts, hothers, hfollows, hvalid⟩ := h
  exact .of hfirst hsecond hconverts hothers hfollows.again hvalid

/-- Two parts of events carry the same annotations about settings, in whatever order. -/
def Alike (part other : List (String × Json)) : Prop :=
  ∃ annotations others, Annotated part annotations ∧ Annotated other others ∧
    (concerning annotations).Perm (concerning others)

theorem Overridden.congr {check' entity' : List (String × Json)} {before after : Settings}
    (hcheck : (Json.object check).WellFormed) (hentity : (Json.object entity).WellFormed)
    (hcheck' : (Json.object check').WellFormed) (hentity' : (Json.object entity').WellFormed)
    (alike : Alike check check') (alike' : Alike entity entity')
    (h : Overridden check entity before after) : Overridden check' entity' before after := by
  obtain ⟨hfirst, hsecond, hconverts, hothers, hfollows, hvalid⟩ := h
  obtain ⟨first, first', hannotated, hfirst', hperm⟩ := alike
  obtain ⟨second, second', hannotated', hsecond', hperm'⟩ := alike'
  cases hfirst.unique hannotated
  cases hsecond.unique hannotated'
  refine .of hfirst' hsecond' (hconverts.congr hperm) (hothers.congr hperm') ?_ ?_
  · rw [← layer_congr (hfirst.distinct hcheck) (hfirst'.distinct hcheck') hperm,
      ← layer_congr (hsecond.distinct hentity) (hsecond'.distinct hentity') hperm']
    exact hfollows
  · intro hconcerns
    exact hvalid (hconcerns.imp (Concerns.congr hperm) (Concerns.congr hperm'))

end About

/-! ## Annotations that are texts -/

/-- Annotations that are texts. -/
def texts (annotations : List (String × String)) : List (String × Json) :=
  annotations.map fun entry => (entry.1, .string entry.2)

/-- A part of an event with such annotations. -/
def partOf (annotations : List (String × String)) : List (String × Json) :=
  [("metadata", .object [("annotations", .object (texts annotations))])]

/-- An event with such annotations of its check and of its entity. -/
def eventOf (check entity : List (String × String)) : Json :=
  .object [("check", .object (partOf check)), ("entity", .object (partOf entity))]

theorem annotated_partOf (annotations : List (String × String)) :
    Annotated (partOf annotations) (texts annotations) :=
  ⟨_, .object rfl, .object rfl⟩

theorem about_eventOf (check entity : List (String × String)) :
    About (eventOf check entity) (partOf check) (partOf entity) :=
  .of rfl rfl

theorem wellFormed_eventOf {check entity : List (String × String)}
    (hcheck : (check.map (·.1)).Nodup) (hentity : (entity.map (·.1)).Nodup) :
    (eventOf check entity).WellFormed := by
  have hpart {annotations : List (String × String)} (h : (annotations.map (·.1)).Nodup) :
      (Json.object (partOf annotations)).WellFormed := by
    have htexts : (Json.object (texts annotations)).WellFormed := by
      refine .object ?_ ?_
      · rw [texts, List.map_map]
        exact h
      · exact List.forall_mem_map.mpr fun entry _ => .string entry.2
    have hmetadata : ["annotations"].Nodup := by decide
    have hkeys : ["metadata"].Nodup := by decide
    refine .object hkeys (List.forall_mem_singleton.mpr ?_)
    exact .object hmetadata (List.forall_mem_singleton.mpr htexts)
  have hkeys : ["check", "entity"].Nodup := by decide
  refine .object hkeys (List.forall_mem_cons.mpr ⟨hpart hcheck, ?_⟩)
  exact List.forall_mem_singleton.mpr (hpart hentity)

theorem listable_of_mem_texts {annotations : List (String × String)} {key : String} {raw : Json}
    (h : (key, raw) ∈ texts annotations) : Listable raw := by
  obtain ⟨entry, _, heq⟩ := List.mem_map.mp h
  cases heq
  exact .string entry.2

end Annotations

/-- An event that was read is well-formed. -/
theorem Program.wellFormed_readEvent {text : String} {event : Json}
    (h : readEvent text = .ok event) : event.WellFormed := by
  obtain ⟨json, hread, h⟩ := bind_eq_ok_iff.mp h
  have hjson := Json.wellFormed_read (mapError_eq_ok_iff.mp hread)
  split at h
  · cases h
    exact hjson
  · cases h

namespace Settings

open Annotations

section

variable {event : Json} {check entity : List (String × Json)} {settings after : Settings}

/-- Annotations that convert are followed, and what comes of them is validated if any of them is about
a setting. -/
theorem exists_overriddenBy {first second : List (String × Json)} (hevent : event.WellFormed)
    (habout : About event check entity) (hfirst : Annotated check first)
    (hsecond : Annotated entity second) (hconverts : Converts first) (hothers : Converts second)
    (settings : Settings) :
    ∃ after, Follows ((layer second).above (layer first)) settings after ∧
      (¬ (Concerns first ∨ Concerns second) → settings.overriddenBy? event = .ok none) ∧
      (Concerns first ∨ Concerns second → settings.overriddenBy? event =
        (after.validate.mapError .failure).map fun _ => some after) := by
  obtain ⟨hcheck, hentity⟩ := habout.wellFormed hevent
  obtain ⟨found, hfound⟩ := exists_overrides_iff.mpr hconverts
  obtain ⟨others, hothers⟩ := exists_overrides_iff.mpr hothers
  have hofEvent : ofEvent event = .ok (found ++ others) := by
    rw [habout.ofEvent, ofPart_eq, ofPart_eq, annotationsOf_eq_ok_iff.mpr hfirst,
      annotationsOf_eq_ok_iff.mpr hsecond]
    show (overrides first >>= fun found => overrides second >>= fun others =>
      pure (found ++ others)) = _
    rw [hfound, hothers]
    rfl
  have happly : Override.apply settings (found ++ others) =
      Override.apply (Override.apply settings found) others := List.foldl_append
  have hempty : (found ++ others).isEmpty = true ↔ ¬ (Concerns first ∨ Concerns second) := by
    rw [List.isEmpty_iff, List.append_eq_nil_iff, overrides_eq_nil_iff hfound,
      overrides_eq_nil_iff hothers, not_or]
  refine ⟨Override.apply settings (found ++ others), ?_, ?_, ?_⟩
  · -- the entity is applied to what the check left
    rw [happly]
    exact (follows_apply (hfirst.distinct hcheck) hfound settings).trans
      (follows_apply (hsecond.distinct hentity) hothers _)
  · intro hnone
    unfold overriddenBy?
    rw [hofEvent]
    show (if (found ++ others).isEmpty then _ else _) = _
    rw [if_pos (hempty.mpr hnone)]
    rfl
  · intro hsome
    unfold overriddenBy?
    rw [hofEvent]
    show (if (found ++ others).isEmpty then _ else _) = _
    rw [if_neg fun h => hempty.mp h hsome]
    cases (Override.apply settings (found ++ others)).validate <;> rfl

theorem overriddenBy_of_none (h : settings.overriddenBy? event = .ok none) :
    settings.overriddenBy event = .ok settings := by
  unfold overriddenBy
  rw [h]
  rfl

theorem overriddenBy_of_validate
    (h : settings.overriddenBy? event = (after.validate.mapError .failure).map fun _ => some after) :
    settings.overriddenBy event = (after.validate.mapError .failure).map fun _ => after := by
  unfold overriddenBy
  rw [h]
  cases after.validate <;> rfl

/-- What an event makes of settings is what its annotations make of them. -/
theorem overriddenBy_eq_ok_iff (hevent : event.WellFormed) (habout : About event check entity) :
    settings.overriddenBy event = .ok after ↔ Overridden check entity settings after := by
  constructor
  · intro h
    obtain ⟨overridden, hoverridden, _⟩ := bind_eq_ok_iff.mp h
    obtain ⟨found, hfound, _⟩ := bind_eq_ok_iff.mp hoverridden
    rw [habout.ofEvent] at hfound
    obtain ⟨checked, hchecked, hfound⟩ := bind_eq_ok_iff.mp hfound
    obtain ⟨others, hothers, _⟩ := bind_eq_ok_iff.mp hfound
    obtain ⟨first, hfirst, hconverts⟩ := exists_ofPart_iff.mp ⟨checked, hchecked⟩
    obtain ⟨second, hsecond, hothers⟩ := exists_ofPart_iff.mp ⟨others, hothers⟩
    rw [annotationsOf_eq_ok_iff] at hfirst hsecond
    obtain ⟨final, hfollows, hnone, hsome⟩ :=
      exists_overriddenBy hevent habout hfirst hsecond hconverts hothers settings
    by_cases hconcerns : Concerns first ∨ Concerns second
    · rw [overriddenBy_of_validate (hsome hconcerns)] at h
      obtain ⟨_, hvalid, rfl⟩ := map_eq_ok_iff.mp h
      exact .of hfirst hsecond hconverts hothers hfollows fun _ => mapError_eq_ok_iff.mp hvalid
    · rw [overriddenBy_of_none (hnone hconcerns)] at h
      cases h
      exact .of hfirst hsecond hconverts hothers ((follows_iff_of_not_concerns hconcerns).mpr rfl)
        fun h => absurd h hconcerns
  · intro h
    cases h with
    | @of first second hfirst hsecond hconverts hothers hfollows hvalid =>
      obtain ⟨final, hfinal, hnone, hsome⟩ :=
        exists_overriddenBy hevent habout hfirst hsecond hconverts hothers settings
      cases hfinal.unique hfollows
      by_cases hconcerns : Concerns first ∨ Concerns second
      · rw [overriddenBy_of_validate (hsome hconcerns), hvalid hconcerns]
        rfl
      · rw [overriddenBy_of_none (hnone hconcerns), (follows_iff_of_not_concerns hconcerns).mp hfollows]

/-- Only the value of an annotation is refused. -/
theorem ofEvent_of_overriddenBy_refusal {refusal : Refusal}
    (h : settings.overriddenBy event = .error (.refusal refusal)) :
    ofEvent event = .error (.refusal refusal) := by
  unfold overriddenBy overriddenBy? at h
  rcases bind_eq_error_iff.mp h with h | ⟨_, _, hdone⟩
  · rcases bind_eq_error_iff.mp h with h | ⟨overrides, _, h⟩
    · exact h
    · split at h
      · cases h
      · rcases bind_eq_error_iff.mp h with hinvalid | ⟨_, _, hdone⟩
        · exact absurd hinvalid (mapError_failure_ne_refusal _ _)
        · cases hdone
  · cases hdone

theorem failsAs_overriddenBy (settings : Settings) (event : Json) :
    FailsAs (Trouble.AboutSettings []) (settings.overriddenBy event) := by
  refine .bind (.bind (failsAs_ofEvent event) fun overrides _ => ?_) fun _ _ => .ok _
  split
  · exact .ok _
  · have hvalid := Draft.failsAs_validate { settings := Override.apply settings overrides }
    rw [Draft.validate_complete] at hvalid
    exact .bind hvalid fun _ _ => .ok _

/-- An event fails just if its annotations are unfit. -/
theorem exists_overriddenBy_error_iff (hevent : event.WellFormed)
    (habout : About event check entity) :
    (∃ trouble, settings.overriddenBy event = .error trouble) ↔ Unfit check entity settings := by
  constructor
  · rintro ⟨trouble, h⟩
    rcases annotated_or_misfit check with ⟨first, hfirst⟩ | hcheck
    · rcases annotated_or_misfit entity with ⟨second, hsecond⟩ | hentity
      · by_cases hconverts : Converts first
        · by_cases hothers : Converts second
          · -- nothing is wrong with the annotations, so only validation is left
            obtain ⟨after, hfollows, hnone, hsome⟩ :=
              exists_overriddenBy hevent habout hfirst hsecond hconverts hothers settings
            by_cases hconcerns : Concerns first ∨ Concerns second
            · rw [overriddenBy_of_validate (hsome hconcerns)] at h
              cases hvalid : after.validate with
              | ok done =>
                rw [hvalid] at h
                cases h
              | error failure => exact .invalid hfirst hsecond hconcerns hfollows hvalid
            · rw [overriddenBy_of_none (hnone hconcerns)] at h
              cases h
          · exact .second hsecond hothers
        · exact .first hfirst hconverts
      · exact .entity hentity
    · exact .check hcheck
  · intro hunfit
    cases h : settings.overriddenBy event with
    | ok after => exact absurd hunfit ((overriddenBy_eq_ok_iff hevent habout).mp h).not_unfit
    | error trouble => exact ⟨trouble, rfl⟩

/-- If the arguments of the query are given by what stands for a list, then it fails with a failure.
-/
theorem failure_of_overriddenBy (habout : About event check entity)
    (hlists : ∀ annotations, Annotated check annotations ∨ Annotated entity annotations →
      ∀ raw, (keyspace ++ Setting.queryArgs.path, raw) ∈ annotations → Listable raw)
    {trouble : Trouble} (h : settings.overriddenBy event = .error trouble) :
    ∃ failure, trouble = .failure failure ∧ failure.cause.kind = .settings := by
  cases settings.failsAs_overriddenBy event trouble h with
  | failure htells => exact ⟨_, rfl, (Trouble.AboutSettings.failure htells).kind⟩
  | refusal refusal =>
    obtain ⟨kind, hrefuses, _⟩ := ofEvent_eq_refusal_iff.mp (ofEvent_of_overriddenBy_refusal h)
    obtain ⟨annotations, raw, hpart, hmem, hraw⟩ := habout.exists_of_refuses hrefuses
    exact absurd (hlists annotations hpart raw hmem) hraw.not_listable

/-- What an event overrides. Each setting is what the entity says of it, else the check, else what it
was before (`Annotations.Overridden`), and `Annotations.Unfit` lists what can be wrong. Where no
annotation is about a setting nothing happens, validation neither. The same event changes nothing any
more, and the order of the annotations does not count. -/
theorem overriddenBy_event (hevent : event.WellFormed) (habout : About event check entity)
    (hlists : ∀ annotations, Annotated check annotations ∨ Annotated entity annotations →
      ∀ raw, (keyspace ++ Setting.queryArgs.path, raw) ∈ annotations → Listable raw)
    (settings : Settings) :
    (∀ after, settings.overriddenBy event = .ok after ↔ Overridden check entity settings after) ∧
    ((∃ trouble, settings.overriddenBy event = .error trouble) ↔ Unfit check entity settings) ∧
    (∀ trouble, settings.overriddenBy event = .error trouble →
      ∃ failure, trouble = .failure failure ∧ failure.cause.kind = .settings) ∧
    (∀ first second, Annotated check first → Annotated entity second →
      ¬ (Concerns first ∨ Concerns second) →
        settings.overriddenBy? event = .ok none ∧ settings.overriddenBy event = .ok settings) ∧
    ∀ after, settings.overriddenBy event = .ok after →
      after.overriddenBy event = .ok after ∧
      ∀ other check' entity', other.WellFormed → About other check' entity' →
        Alike check check' → Alike entity entity' → settings.overriddenBy other = .ok after := by
  refine ⟨?_, exists_overriddenBy_error_iff hevent habout, ?_, ?_, ?_⟩
  · intro after
    exact overriddenBy_eq_ok_iff hevent habout
  · intro trouble h
    exact failure_of_overriddenBy habout hlists h
  · intro first second hfirst hsecond hconcerns
    -- annotations that are about no setting convert
    have hconverts {annotations : List (String × Json)} (h : ¬ Concerns annotations) :
        Converts annotations := by
      rintro ⟨key, raw⟩ hentry setting hsetting
      exact absurd ⟨setting, raw, setting?_eq_some_iff.mp hsetting ▸ hentry⟩ h
    obtain ⟨hcheck, hentity⟩ := not_or.mp hconcerns
    obtain ⟨after, _, hnone, _⟩ := exists_overriddenBy hevent habout hfirst hsecond
      (hconverts hcheck) (hconverts hentity) settings
    exact ⟨hnone hconcerns, overriddenBy_of_none (hnone hconcerns)⟩
  · intro after h
    rw [overriddenBy_eq_ok_iff hevent habout] at h
    refine ⟨(overriddenBy_eq_ok_iff hevent habout).mpr h.again, ?_⟩
    intro other check' entity' hother habout' alike alike'
    obtain ⟨hcheck, hentity⟩ := habout.wellFormed hevent
    obtain ⟨hcheck', hentity'⟩ := habout'.wellFormed hother
    exact (overriddenBy_eq_ok_iff hother habout').mpr
      (h.congr hcheck hentity hcheck' hentity' alike alike')

end

/-- The port of the entity comes before that of the check, and the note does not matter. -/
theorem overriddenBy_event_port :
    let check := [("note", "x"), (keyspace ++ "port", "1"), (keyspace ++ "host", "db")]
    let turned := [(keyspace ++ "host", "db"), (keyspace ++ "port", "1")]
    let entity := [(keyspace ++ "port", "2")]
    let after : Settings := { port := 2, host := "db" }
    overriddenBy {} (eventOf check entity) = .ok after ∧
      after.overriddenBy (eventOf check entity) = .ok after ∧
        overriddenBy {} (eventOf turned entity) = .ok after := by
  intro check turned entity after
  have hevent : (eventOf check entity).WellFormed := wellFormed_eventOf (by decide) (by decide)
  have hturned : (eventOf turned entity).WellFormed := wellFormed_eventOf (by decide) (by decide)
  have hlists : ∀ annotations,
      Annotated (partOf check) annotations ∨ Annotated (partOf entity) annotations →
        ∀ raw, (keyspace ++ Setting.queryArgs.path, raw) ∈ annotations → Listable raw := by
    rintro annotations (h | h) raw hmem
    · cases h.unique (annotated_partOf check)
      exact listable_of_mem_texts hmem
    · cases h.unique (annotated_partOf entity)
      exact listable_of_mem_texts hmem
  have hafter : overriddenBy {} (eventOf check entity) = .ok after := by
    decide +kernel
  obtain ⟨_, _, _, _, hsame⟩ :=
    overriddenBy_event hevent (about_eventOf check entity) hlists {}
  obtain ⟨again, hother⟩ := hsame after hafter
  refine ⟨hafter, again, hother _ _ _ hturned (about_eventOf turned entity) ?_ ?_⟩
  · exact ⟨_, _, annotated_partOf check, annotated_partOf turned, .swap _ _ _⟩
  · exact ⟨_, _, annotated_partOf entity, annotated_partOf entity, .refl _⟩

end Settings

end SqlGauge
