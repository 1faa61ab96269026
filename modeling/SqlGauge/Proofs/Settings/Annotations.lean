import SqlGauge.Proofs.Json.Keys
import SqlGauge.Proofs.Settings.Refusal
import SqlGauge.Proofs.Settings.Layer

/-!
# Annotations as a layer of settings

The annotations of a part of an event are an object in its metadata. Both may be absent, and a few
other values count as absent; `Annotated` tells which annotations a part has, and `Misfit` that
something else stands in their place. A part is either (`annotated_or_misfit`).

What annotations say of the settings is a layer (`Annotations.layer`). Applied in their order they
give the settings that follow it (`follows_apply`), which makes use of the keys being distinct. So it
does not matter in which order they come, nor which others there are (`layer_congr`).
-/

namespace SqlGauge

theorem Binary64.equals_zero_iff {value : Binary64} :
    value.equals (.zero false) = true ↔ ∃ negative, value = .zero negative := by
  have hlimit : (0 : Int) < unitsLimit := Int.ofNat_lt.mpr unitsLimit_pos
  have hzero : (zero false).rank? = some 0 := rfl
  unfold equals
  rw [hzero]
  cases value with
  | nan => simp [rank?, zero]
  | infinite negative =>
    have hrank : (if negative then -(unitsLimit : Int) else unitsLimit) ≠ 0 := by
      split <;> omega
    refine iff_of_false (fun h => hrank (of_decide_eq_true h)) ?_
    rintro ⟨_, h⟩
    exact Binary64.noConfusion h
  | finite negative magnitude =>
    obtain ⟨units, hunits⟩ := magnitude
    cases negative <;> simp [rank?, zero]

namespace Annotations

/-! ## Where annotations are found -/

/-- A value that counts as absent. -/
inductive Absent : Json → Prop where
  | null : Absent .null
  | no : Absent (.bool false)
  | zero : Absent (.integer 0)
  | realZero (negative : Bool) : Absent (.real (.zero negative))
  | text : Absent (.string "")
  | array : Absent (.array [])

/-- The object with a name among fields. What is absent is like an empty one. -/
inductive Part (name : String) (fields : List (String × Json)) : List (String × Json) → Prop where
  | missing (h : Json.field? name fields = none) : Part name fields []
  | absent {value : Json} (h : Json.field? name fields = some value) (absent : Absent value) :
      Part name fields []
  | object {inner : List (String × Json)} (h : Json.field? name fields = some (.object inner)) :
      Part name fields inner

/-- Something else than an object has this name, and does not count as absent either. -/
def Misplaced (name : String) (fields : List (String × Json)) : Prop :=
  ∃ value, Json.field? name fields = some value ∧ ¬ Absent value ∧ ∀ inner, value ≠ .object inner

/-- The part of an event has these annotations. -/
def Annotated (part annotations : List (String × Json)) : Prop :=
  ∃ metadata, Part "metadata" part metadata ∧ Part "annotations" metadata annotations

/-- Something else stands in the place of the metadata of a part, or of the annotations in it. -/
def Misfit (part : List (String × Json)) : Prop :=
  Misplaced "metadata" part ∨
    ∃ metadata, Part "metadata" part metadata ∧ Misplaced "annotations" metadata

theorem isEmpty_iff {value : Json} (h : ∀ inner, value ≠ .object inner) :
    value.isEmpty = true ↔ Absent value := by
  constructor
  · intro hempty
    cases value with
    | null => exact .null
    | bool value =>
      cases value with
      | false => exact .no
      | true => cases hempty
    | integer value =>
      rw [of_decide_eq_true hempty]
      exact .zero
    | real value =>
      obtain ⟨negative, hzero⟩ := Binary64.equals_zero_iff.mp hempty
      rw [hzero]
      exact .realZero negative
    | string value =>
      rw [of_decide_eq_true hempty]
      exact .text
    | array items =>
      rw [List.isEmpty_iff.mp hempty]
      exact .array
    | object inner => exact absurd rfl (h inner)
  · intro habsent
    cases habsent with
    | realZero negative => exact Binary64.equals_zero_iff.mpr ⟨negative, rfl⟩
    | _ => rfl

theorem optionalPart_of_value {name : String} {fields : List (String × Json)} {value : Json}
    (h : Json.field? name fields = some value) (hvalue : ∀ inner, value ≠ .object inner) :
    optionalPart name fields =
      if value.isEmpty then .ok []
      else .error (.ofSettings ("event " ++ name ++ " is not a JSON object")) := by
  unfold optionalPart
  rw [h]
  cases value with
  | object inner => exact absurd rfl (hvalue inner)
  | _ => rfl

theorem optionalPart_eq_ok_iff {name : String} {fields inner : List (String × Json)} :
    optionalPart name fields = .ok inner ↔ Part name fields inner := by
  constructor
  · intro h
    cases hfield : Json.field? name fields with
    | none =>
      rw [optionalPart, hfield] at h
      cases h
      exact .missing hfield
    | some value =>
      by_cases hobject : ∃ inner, value = .object inner
      · obtain ⟨found, rfl⟩ := hobject
        rw [optionalPart, hfield] at h
        cases h
        exact .object hfield
      · have hvalue : ∀ inner, value ≠ .object inner := fun inner heq => hobject ⟨inner, heq⟩
        rw [optionalPart_of_value hfield hvalue] at h
        split at h
        · next hempty =>
          cases h
          exact .absent hfield ((isEmpty_iff hvalue).mp hempty)
        · cases h
  · intro h
    cases h with
    | missing h => rw [optionalPart, h]
    | @absent value h habsent =>
      have hvalue : ∀ inner, value ≠ .object inner := by
        intro inner heq
        rw [heq] at habsent
        cases habsent
      rw [optionalPart_of_value h hvalue, if_pos ((isEmpty_iff hvalue).mpr habsent)]
    | object h => rw [optionalPart, h]

theorem exists_optionalPart_error_iff {name : String} {fields : List (String × Json)} :
    (∃ failure, optionalPart name fields = .error failure) ↔ Misplaced name fields := by
  constructor
  · rintro ⟨failure, h⟩
    cases hfield : Json.field? name fields with
    | none =>
      rw [optionalPart, hfield] at h
      cases h
    | some value =>
      by_cases hobject : ∃ inner, value = .object inner
      · obtain ⟨found, rfl⟩ := hobject
        rw [optionalPart, hfield] at h
        cases h
      · have hvalue : ∀ inner, value ≠ .object inner := fun inner heq => hobject ⟨inner, heq⟩
        refine ⟨value, hfield, ?_, hvalue⟩
        intro habsent
        rw [optionalPart_of_value hfield hvalue, if_pos ((isEmpty_iff hvalue).mpr habsent)] at h
        cases h
  · rintro ⟨value, hfield, hpresent, hvalue⟩
    have hempty : ¬ value.isEmpty = true := fun h => hpresent ((isEmpty_iff hvalue).mp h)
    rw [optionalPart_of_value hfield hvalue, if_neg hempty]
    exact ⟨_, rfl⟩

theorem annotationsOf_eq_ok_iff {part annotations : List (String × Json)} :
    annotationsOf part = .ok annotations ↔ Annotated part annotations := by
  unfold annotationsOf Annotated
  simp only [bind_eq_ok_iff, optionalPart_eq_ok_iff]

theorem exists_annotationsOf_error_iff {part : List (String × Json)} :
    (∃ failure, annotationsOf part = .error failure) ↔ Misfit part := by
  unfold annotationsOf Misfit
  simp only [bind_eq_error_iff, exists_or, exists_optionalPart_error_iff, optionalPart_eq_ok_iff]
  rw [exists_comm]
  simp only [exists_and_left, exists_optionalPart_error_iff]

/-- A part of an event either has annotations or is misfit. -/
theorem annotated_or_misfit (part : List (String × Json)) :
    (∃ annotations, Annotated part annotations) ∨ Misfit part := by
  cases h : annotationsOf part with
  | error failure => exact .inr (exists_annotationsOf_error_iff.mp ⟨failure, h⟩)
  | ok annotations => exact .inl ⟨annotations, annotationsOf_eq_ok_iff.mp h⟩

theorem Annotated.unique {part annotations other : List (String × Json)}
    (h : Annotated part annotations) (hother : Annotated part other) : annotations = other := by
  have heq := (annotationsOf_eq_ok_iff.mpr h).symm.trans (annotationsOf_eq_ok_iff.mpr hother)
  exact Except.ok.inj heq

theorem Annotated.not_misfit {part annotations : List (String × Json)}
    (h : Annotated part annotations) : ¬ Misfit part := by
  intro hmisfit
  obtain ⟨failure, hfailure⟩ := exists_annotationsOf_error_iff.mpr hmisfit
  rw [annotationsOf_eq_ok_iff.mpr h] at hfailure
  cases hfailure

theorem Part.wellFormed {name : String} {fields inner : List (String × Json)}
    (h : Part name fields inner) (hfields : (Json.object fields).WellFormed) :
    (Json.object inner).WellFormed := by
  cases h with
  | object h => exact Json.wellFormed_of_field? hfields h
  | _ => exact .object List.nodup_nil (List.forall_mem_nil _)

/-- Of the annotations of a part no two have the same key. -/
theorem Annotated.distinct {part annotations : List (String × Json)}
    (h : Annotated part annotations) (hpart : (Json.object part).WellFormed) :
    (annotations.map (·.1)).Nodup := by
  obtain ⟨metadata, hmetadata, hannotations⟩ := h
  cases hannotations.wellFormed (hmetadata.wellFormed hpart) with
  | object keys _ => exact keys

/-! ## What annotations say -/

/-- What annotations say. -/
def layer (annotations : List (String × Json)) : Layer :=
  fun setting => (Json.field? (keyspace ++ setting.path) annotations).map setting.convert

/-- Some annotation is about a setting. -/
def Concerns (annotations : List (String × Json)) : Prop :=
  ∃ setting : Setting, ∃ raw, (keyspace ++ setting.path, raw) ∈ annotations

/-- The annotations that are about settings. -/
def concerning (annotations : List (String × Json)) : List (String × Json) :=
  annotations.filter fun entry => (setting? entry.1).isSome

theorem mem_concerning_iff {annotations : List (String × Json)} {setting : Setting} {raw : Json} :
    (keyspace ++ setting.path, raw) ∈ concerning annotations ↔
      (keyspace ++ setting.path, raw) ∈ annotations := by
  unfold concerning
  rw [List.mem_filter, setting?_eq_some_iff.mpr rfl]
  simp

theorem layer_of_ne {key : String} {raw : Json} {rest : List (String × Json)} {setting : Setting}
    (h : key ≠ keyspace ++ setting.path) : layer ((key, raw) :: rest) setting = layer rest setting := by
  unfold layer
  rw [Json.field?, if_neg h]

theorem layer_eq_none {annotations : List (String × Json)} {setting : Setting}
    (h : keyspace ++ setting.path ∉ annotations.map (·.1)) : layer annotations setting = none := by
  unfold layer
  rw [Json.field?_eq_none_iff.mpr h]
  rfl

/-- Annotations that are about nothing say nothing. -/
theorem layer_of_not_concerns {annotations : List (String × Json)} (h : ¬ Concerns annotations)
    (setting : Setting) : layer annotations setting = none := by
  refine layer_eq_none ?_
  intro hmem
  obtain ⟨⟨key, raw⟩, hentry, hkey⟩ := List.mem_map.mp hmem
  exact h ⟨setting, raw, hkey ▸ hentry⟩

theorem follows_iff_of_not_concerns {first second : List (String × Json)} {before after : Settings}
    (h : ¬ (Concerns first ∨ Concerns second)) :
    Settings.Follows ((layer second).above (layer first)) before after ↔ after = before := by
  rw [not_or] at h
  refine Settings.follows_iff_of_silent fun setting => ?_
  show (layer second setting).or (layer first setting) = none
  rw [layer_of_not_concerns h.1, layer_of_not_concerns h.2]
  rfl

/-- The overrides of annotations give the settings what the annotations say. -/
theorem follows_apply {annotations : List (String × Json)} {found : List Override}
    (hdistinct : (annotations.map (·.1)).Nodup) (hfound : overrides annotations = .ok found)
    (settings : Settings) :
    Settings.Follows (layer annotations) settings (Override.apply settings found) := by
  induction annotations generalizing found settings with
  | nil =>
    cases hfound
    intro setting
    rfl
  | cons entry rest ih =>
    obtain ⟨key, raw⟩ := entry
    obtain ⟨hkey, hrest⟩ := List.nodup_cons.mp hdistinct
    cases hsetting : setting? key with
    | none =>
      rw [overrides_cons_of_none hsetting] at hfound
      intro setting
      have hne : key ≠ keyspace ++ setting.path := by
        intro heq
        rw [setting?_eq_some_iff.mpr heq] at hsetting
        cases hsetting
      rw [layer_of_ne hne]
      exact ih hrest hfound settings setting
    | some first =>
      rw [overrides_cons_of_some hsetting] at hfound
      obtain ⟨value, hvalue, hfound⟩ := bind_eq_ok_iff.mp hfound
      obtain ⟨others, hothers, hfound⟩ := bind_eq_ok_iff.mp hfound
      cases hfound
      have hkeyed := setting?_eq_some_iff.mp hsetting
      have hfollows := ih hrest hothers (settings.set first value)
      intro setting
      by_cases hsame : setting = first
      · -- the other annotations have other keys, so the value stays
        subst hsame
        have hsilent : layer rest setting = none := layer_eq_none (hkeyed ▸ hkey)
        have hget : (Override.apply (settings.set setting value) others).get setting = value := by
          rw [hfollows.get_of_silent hsilent, Settings.get_set]
        have hsaid : layer ((key, raw) :: rest) setting = some (.ok value) := by
          unfold layer
          rw [Json.field?, if_pos hkeyed, Option.map_some, hvalue]
        rw [hsaid]
        exact congrArg Except.ok hget.symm
      · have hne : key ≠ keyspace ++ setting.path := by
          intro heq
          rw [setting?_eq_some_iff.mpr heq] at hsetting
          exact hsame (Option.some.inj hsetting)
        rw [layer_of_ne hne, ← Settings.get_set_of_ne settings value hsame]
        exact hfollows setting

theorem overrides_eq_nil_iff {annotations : List (String × Json)} {found : List Override}
    (hfound : overrides annotations = .ok found) : found = [] ↔ ¬ Concerns annotations := by
  induction annotations generalizing found with
  | nil =>
    cases hfound
    refine iff_of_true rfl ?_
    rintro ⟨setting, raw, hmem⟩
    cases hmem
  | cons entry rest ih =>
    obtain ⟨key, raw⟩ := entry
    cases hsetting : setting? key with
    | none =>
      rw [overrides_cons_of_none hsetting] at hfound
      rw [ih hfound]
      refine not_congr ⟨?_, ?_⟩
      · rintro ⟨setting, other, hmem⟩
        exact ⟨setting, other, List.mem_cons_of_mem _ hmem⟩
      · rintro ⟨setting, other, hmem⟩
        rcases List.mem_cons.mp hmem with heq | hmem
        · rw [setting?_eq_some_iff.mpr (congrArg Prod.fst heq).symm] at hsetting
          cases hsetting
        · exact ⟨setting, other, hmem⟩
    | some setting =>
      rw [overrides_cons_of_some hsetting] at hfound
      obtain ⟨value, _, hfound⟩ := bind_eq_ok_iff.mp hfound
      obtain ⟨others, _, hfound⟩ := bind_eq_ok_iff.mp hfound
      cases hfound
      refine iff_of_false (List.cons_ne_nil _ _) (not_not_intro ⟨setting, raw, ?_⟩)
      rw [← setting?_eq_some_iff.mp hsetting]
      exact List.mem_cons_self

/-- The same annotations about settings, in whatever order, say the same. -/
theorem layer_congr {annotations others : List (String × Json)}
    (hdistinct : (annotations.map (·.1)).Nodup) (hothers : (others.map (·.1)).Nodup)
    (h : (concerning annotations).Perm (concerning others)) : layer annotations = layer others := by
  funext setting
  have hmem (raw : Json) : (keyspace ++ setting.path, raw) ∈ annotations ↔
      (keyspace ++ setting.path, raw) ∈ others := by
    rw [← mem_concerning_iff, h.mem_iff, mem_concerning_iff]
  have hfield : Json.field? (keyspace ++ setting.path) annotations =
      Json.field? (keyspace ++ setting.path) others := by
    refine Option.ext fun raw => ?_
    rw [Json.field?_eq_some_iff hdistinct, Json.field?_eq_some_iff hothers]
    exact hmem raw
  unfold layer
  rw [hfield]

theorem layer_concerning {annotations : List (String × Json)}
    (hdistinct : (annotations.map (·.1)).Nodup) :
    layer (concerning annotations) = layer annotations := by
  have hkept : (concerning annotations).Sublist annotations := List.filter_sublist
  refine layer_congr (hdistinct.sublist (hkept.map _)) hdistinct ?_
  unfold concerning
  rw [List.filter_filter]
  simp

theorem converts_concerning_iff {annotations : List (String × Json)} :
    Converts (concerning annotations) ↔ Converts annotations := by
  constructor
  · intro h entry hentry setting hsetting
    refine h entry (List.mem_filter.mpr ⟨hentry, ?_⟩) setting hsetting
    rw [hsetting]
    rfl
  · intro h entry hentry
    exact h entry (List.mem_filter.mp hentry).1

theorem Concerns.congr {annotations others : List (String × Json)}
    (h : (concerning annotations).Perm (concerning others)) (hconcerns : Concerns others) :
    Concerns annotations := by
  obtain ⟨setting, raw, hmem⟩ := hconcerns
  rw [← mem_concerning_iff, ← h.mem_iff, mem_concerning_iff] at hmem
  exact ⟨setting, raw, hmem⟩

theorem Converts.congr {annotations others : List (String × Json)}
    (h : (concerning annotations).Perm (concerning others)) (hconverts : Converts annotations) :
    Converts others := by
  rw [← converts_concerning_iff] at hconverts ⊢
  intro entry hentry
  exact hconverts entry (h.mem_iff.mpr hentry)

end Annotations

end SqlGauge
