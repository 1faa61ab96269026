import SqlGauge.Proofs.Settings.Trouble
import SqlGauge.Proofs.Settings.Valid

/-!
# Values that are refused

Two kinds of value are refused where settings are settled, and not reported as a failure. A number or
a truth value in the place of a list, or of an item of one, is `Unlistable`; only annotations bring
such a value (`Annotations.ofEvent_eq_refusal_iff`). And a flag may leave a setting blank that is
needed later (`Thresholds.ofDraft_eq_refusal_iff`).

Of several values that do not convert the first one counts, in the order of the annotations.
-/

namespace SqlGauge

/-- A step that fails with a failure refuses nothing. -/
theorem mapError_failure_ne_refusal {α : Type} (result : Except Failure α) (refusal : Refusal) :
    result.mapError Trouble.failure ≠ .error (.refusal refusal) := by
  intro h
  obtain ⟨_, _, heq⟩ := mapError_eq_error_iff.mp h
  cases heq

/-! ## Lists -/

/-- A value that stands for a list of texts. -/
inductive Listable : Json → Prop where
  | null : Listable .null
  | string (text : String) : Listable (.string text)
  | array {items : List Json} (h : ∀ item ∈ items, Listable item) : Listable (.array items)
  | object (fields : List (String × Json)) : Listable (.object fields)

/-- A value that stands for no list, and the kind of the first number or truth value in it that stands
where a list or an item is wanted. -/
inductive Unlistable : Json → ScalarKind → Prop where
  | integer (value : Int) : Unlistable (.integer value) .integer
  | real (value : Binary64) : Unlistable (.real value) .real
  | truth (value : Bool) : Unlistable (.bool value) .truth
  | item {before after : List Json} {item : Json} {kind : ScalarKind}
      (earlier : ∀ other ∈ before, Listable other) (h : Unlistable item kind) :
      Unlistable (.array (before ++ item :: after)) kind

mutual

/-- Either the value is listed, or the first scalar in it is refused. -/
theorem flattenList_cases : (raw : Json) →
    (∃ texts, flattenList raw = .ok texts ∧ Listable raw) ∨
      ∃ kind, flattenList raw = .error (.notIterable kind) ∧ Unlistable raw kind
  | .null => .inl ⟨_, by rw [flattenList], .null⟩
  | .string text => .inl ⟨_, by rw [flattenList], .string text⟩
  | .object fields => .inl ⟨_, by rw [flattenList], .object fields⟩
  | .integer value => .inr ⟨_, by rw [flattenList], .integer value⟩
  | .real value => .inr ⟨_, by rw [flattenList], .real value⟩
  | .bool value => .inr ⟨_, by rw [flattenList], .truth value⟩
  | .array items => by
    rw [flattenList]
    rcases flattenItems_cases items with ⟨texts, htexts, hitems⟩ |
      ⟨kind, before, item, after, rfl, hrefused, hbefore, hitem⟩
    · exact .inl ⟨texts, htexts, .array hitems⟩
    · exact .inr ⟨kind, hrefused, .item hbefore hitem⟩

/-- Either all items are listed, or there is a first one that is refused. -/
theorem flattenItems_cases : (items : List Json) →
    (∃ texts, flattenItems items = .ok texts ∧ ∀ item ∈ items, Listable item) ∨
      ∃ kind before item after, items = before ++ item :: after ∧
        flattenItems items = .error (.notIterable kind) ∧ (∀ other ∈ before, Listable other) ∧
          Unlistable item kind
  | [] => .inl ⟨[], by rw [flattenItems], List.forall_mem_nil _⟩
  | first :: rest => by
    rw [flattenItems]
    rcases flattenList_cases first with ⟨texts, htexts, hfirst⟩ | ⟨kind, hrefused, hfirst⟩
    · rcases flattenItems_cases rest with ⟨others, hothers, hrest⟩ |
        ⟨kind, before, item, after, rfl, hrefused, hbefore, hitem⟩
      · refine .inl ⟨texts ++ others, ?_, List.forall_mem_cons.mpr ⟨hfirst, hrest⟩⟩
        rw [htexts, hothers]
        rfl
      · refine .inr ⟨kind, first :: before, item, after, rfl, ?_,
          List.forall_mem_cons.mpr ⟨hfirst, hbefore⟩, hitem⟩
        rw [htexts, hrefused]
        rfl
    · refine .inr ⟨kind, [], first, rest, rfl, ?_, List.forall_mem_nil _, hfirst⟩
      rw [hrefused]
      rfl

end

theorem Unlistable.not_listable {raw : Json} {kind : ScalarKind} (h : Unlistable raw kind) :
    ¬ Listable raw := by
  induction h with
  | integer value => exact nofun
  | real value => exact nofun
  | truth value => exact nofun
  | item earlier h ih =>
    intro hlist
    cases hlist with
    | array hitems => exact ih (hitems _ (List.mem_append_right _ List.mem_cons_self))

theorem exists_flattenList_iff {raw : Json} :
    (∃ texts, flattenList raw = .ok texts) ↔ Listable raw := by
  rcases flattenList_cases raw with ⟨texts, htexts, hlist⟩ | ⟨kind, hrefused, hraw⟩
  · exact iff_of_true ⟨texts, htexts⟩ hlist
  · rw [hrefused]
    exact iff_of_false nofun hraw.not_listable

/-- The first scalar of a value is one only. -/
theorem Unlistable.flattenList {raw : Json} {kind : ScalarKind} (h : Unlistable raw kind) :
    flattenList raw = .error (.notIterable kind) := by
  have hitems {before after : List Json} {item : Json} {refusal : Refusal}
      (hbefore : ∀ other ∈ before, Listable other)
      (hitem : SqlGauge.flattenList item = .error refusal) :
      flattenItems (before ++ item :: after) = .error refusal := by
    induction before with
    | nil =>
      rw [List.nil_append, flattenItems, hitem]
      rfl
    | cons first before ih =>
      obtain ⟨hfirst, hothers⟩ := List.forall_mem_cons.mp hbefore
      obtain ⟨texts, htexts⟩ := exists_flattenList_iff.mpr hfirst
      rw [List.cons_append, flattenItems, htexts, ih hothers]
      rfl
  induction h with
  | integer value => rw [SqlGauge.flattenList]
  | real value => rw [SqlGauge.flattenList]
  | truth value => rw [SqlGauge.flattenList]
  | item earlier h ih =>
    rw [SqlGauge.flattenList]
    exact hitems earlier ih

theorem flattenList_eq_error_iff {raw : Json} {refusal : Refusal} :
    flattenList raw = .error refusal ↔ ∃ kind, Unlistable raw kind ∧ refusal = .notIterable kind := by
  constructor
  · intro h
    rcases flattenList_cases raw with ⟨texts, htexts, _⟩ | ⟨kind, hrefused, hraw⟩
    · rw [htexts] at h
      cases h
    · rw [hrefused] at h
      cases h
      exact ⟨kind, hraw, rfl⟩
  · rintro ⟨kind, h, rfl⟩
    exact h.flattenList

/-! ## Annotations -/

/-- Only a list can be refused, and the only setting with a list is that of the arguments. -/
theorem Setting.convert_eq_refusal_iff {setting : Setting} {raw : Json} {refusal : Refusal} :
    setting.convert raw = .error (.refusal refusal) ↔
      setting = .queryArgs ∧ ∃ kind, Unlistable raw kind ∧ refusal = .notIterable kind := by
  have hlist : Setting.queryArgs.convert raw = .error (.refusal refusal) ↔
      ∃ kind, Unlistable raw kind ∧ refusal = .notIterable kind := by
    show (flattenList raw).mapError Trouble.refusal = .error (.refusal refusal) ↔ _
    rw [mapError_eq_error_iff]
    simp only [Trouble.refusal.injEq, exists_eq_right]
    exact flattenList_eq_error_iff
  by_cases hsetting : setting = .queryArgs
  · subst hsetting
    rw [hlist, and_iff_right rfl]
  · refine iff_of_false ?_ fun h => hsetting h.1
    intro h
    cases setting with
    | queryArgs => exact hsetting rfl
    | port =>
      obtain ⟨_, _, hfailure⟩ := mapError_eq_error_iff.mp h
      cases hfailure
    | timeout =>
      obtain ⟨_, _, hfailure⟩ := mapError_eq_error_iff.mp h
      cases hfailure
    | unquote =>
      change Kind.convert _ .truth raw = _ at h
      simp only [Kind.convert] at h
      split at h <;> cases h
    | debug =>
      change Kind.convert _ .truth raw = _ at h
      simp only [Kind.convert] at h
      split at h <;> cases h
    | _ => cases h

namespace Annotations

theorem setting?_eq_some_iff {key : String} {setting : Setting} :
    setting? key = some setting ↔ key = keyspace ++ setting.path := by
  have hpath : ∀ a b : Setting, a.path = b.path → a = b := by
    intro a b h
    cases a <;> cases b <;> first | rfl | exact absurd h (by decide)
  unfold setting?
  constructor
  · intro h
    simpa using List.find?_some h
  · rintro rfl
    -- no other setting has the same path
    have hfind : (fun other : Setting => decide (keyspace ++ setting.path = keyspace ++ other.path)) =
        fun other => decide (other = setting) := by
      funext other
      rw [decide_eq_decide, String.append_right_inj]
      exact ⟨fun h => (hpath _ _ h).symm, fun h => h ▸ rfl⟩
    rw [hfind]
    cases setting <;> rfl

theorem overrides_cons_of_none {key : String} {raw : Json} {rest : List (String × Json)}
    (h : setting? key = none) : overrides ((key, raw) :: rest) = overrides rest := by
  rw [overrides, h]

theorem overrides_cons_of_some {key : String} {raw : Json} {rest : List (String × Json)}
    {setting : Setting} (h : setting? key = some setting) :
    overrides ((key, raw) :: rest) = (do
      let value ← setting.convert raw
      let found ← overrides rest
      return ⟨setting, value⟩ :: found) := by
  rw [overrides, h]

/-- Every annotation that is about a setting has a value for it. -/
def Converts (annotations : List (String × Json)) : Prop :=
  ∀ entry ∈ annotations, ∀ setting, setting? entry.1 = some setting →
    ∃ value, setting.convert entry.2 = .ok value

theorem exists_overrides_iff {annotations : List (String × Json)} :
    (∃ found, overrides annotations = .ok found) ↔ Converts annotations := by
  induction annotations with
  | nil => exact iff_of_true ⟨[], rfl⟩ (List.forall_mem_nil _)
  | cons entry rest ih =>
    obtain ⟨key, raw⟩ := entry
    unfold Converts at ih ⊢
    rw [List.forall_mem_cons, ← ih]
    cases hsetting : setting? key with
    | none =>
      rw [overrides_cons_of_none hsetting]
      simp
    | some setting =>
      rw [overrides_cons_of_some hsetting]
      simp only [bind_eq_ok_iff, Option.some.injEq, forall_eq']
      constructor
      · rintro ⟨_, value, hvalue, found, hfound, _⟩
        exact ⟨⟨value, hvalue⟩, found, hfound⟩
      · rintro ⟨⟨value, hvalue⟩, found, hfound⟩
        exact ⟨_, value, hvalue, found, hfound, rfl⟩

/-- The arguments of the query are given by a value that stands for no list, after annotations that
convert. -/
def Refuses (annotations : List (String × Json)) (kind : ScalarKind) : Prop :=
  ∃ before raw after, annotations = before ++ (keyspace ++ Setting.queryArgs.path, raw) :: after ∧
    Converts before ∧ Unlistable raw kind

theorem refuses_cons_iff {entry : String × Json} {rest : List (String × Json)}
    {kind : ScalarKind} :
    Refuses (entry :: rest) kind ↔
      (entry.1 = keyspace ++ Setting.queryArgs.path ∧ Unlistable entry.2 kind) ∨
        Converts [entry] ∧ Refuses rest kind := by
  constructor
  · rintro ⟨before, raw, after, heq, hbefore, hraw⟩
    cases before with
    | nil =>
      cases heq
      exact .inl ⟨rfl, hraw⟩
    | cons first before =>
      obtain ⟨rfl, rfl⟩ := List.cons.inj heq
      refine .inr ⟨?_, before, raw, after, rfl, ?_, hraw⟩
      · exact fun other hother => hbefore other (List.mem_singleton.mp hother ▸ List.mem_cons_self)
      · exact fun other hother => hbefore other (List.mem_cons_of_mem _ hother)
  · rintro (⟨hkey, hraw⟩ | ⟨hentry, before, raw, after, rfl, hbefore, hraw⟩)
    · obtain ⟨key, raw⟩ := entry
      cases hkey
      exact ⟨[], raw, rest, rfl, List.forall_mem_nil _, hraw⟩
    · refine ⟨entry :: before, raw, after, rfl, ?_, hraw⟩
      exact List.forall_mem_cons.mpr ⟨hentry entry List.mem_cons_self, hbefore⟩

theorem overrides_eq_refusal_iff {annotations : List (String × Json)} {refusal : Refusal} :
    overrides annotations = .error (.refusal refusal) ↔
      ∃ kind, Refuses annotations kind ∧ refusal = .notIterable kind := by
  induction annotations with
  | nil =>
    refine iff_of_false nofun ?_
    rintro ⟨kind, ⟨before, raw, after, heq, _⟩, _⟩
    exact absurd heq.symm (by simp)
  | cons entry rest ih =>
    obtain ⟨key, raw⟩ := entry
    simp only [refuses_cons_iff]
    cases hsome : setting? key with
    | none =>
      have hkey : key ≠ keyspace ++ Setting.queryArgs.path := fun h => by
        rw [setting?_eq_some_iff.mpr h] at hsome
        cases hsome
      have hconverts : Converts [(key, raw)] := by
        intro entry h setting hfound
        rw [List.mem_singleton.mp h, hsome] at hfound
        cases hfound
      rw [overrides_cons_of_none hsome, ih]
      simp only [hkey, false_and, false_or, hconverts, true_and]
    | some setting =>
      rw [overrides_cons_of_some hsome, bind_eq_error_iff, Setting.convert_eq_refusal_iff]
      have hconverts : Converts [(key, raw)] ↔ ∃ value, setting.convert raw = .ok value := by
        unfold Converts
        simp only [List.forall_mem_singleton, hsome, Option.some.injEq, forall_eq']
      have hargs : key = keyspace ++ Setting.queryArgs.path ↔ setting = .queryArgs := by
        rw [← setting?_eq_some_iff, hsome, Option.some.injEq]
      have hrest {value : setting.Value} :
          (overrides rest >>= fun found => pure (⟨setting, value⟩ :: found)) =
            .error (.refusal refusal) ↔
          ∃ kind, Refuses rest kind ∧ refusal = .notIterable kind := by
        rw [bind_eq_error_iff, ih]
        simp [pure, Except.pure]
      simp only [hrest, hargs, hconverts]
      constructor
      · rintro (⟨hsetting, kind, hraw, rfl⟩ | ⟨value, hvalue, kind, hrefuses, rfl⟩)
        · exact ⟨kind, .inl ⟨hsetting, hraw⟩, rfl⟩
        · exact ⟨kind, .inr ⟨⟨value, hvalue⟩, hrefuses⟩, rfl⟩
      · rintro ⟨kind, ⟨hsetting, hraw⟩ | ⟨⟨value, hvalue⟩, hrefuses⟩, rfl⟩
        · exact .inl ⟨hsetting, kind, hraw, rfl⟩
        · exact .inr ⟨value, hvalue, kind, hrefuses, rfl⟩

/-! ## Events -/

/-- The annotations of a part of an event. -/
def annotationsOf (fields : List (String × Json)) : Except Failure (List (String × Json)) := do
  let metadata ← optionalPart "metadata" fields
  optionalPart "annotations" metadata

theorem ofPart_eq (fields : List (String × Json)) :
    ofPart fields = (annotationsOf fields).mapError .failure >>= overrides := by
  unfold ofPart annotationsOf
  cases optionalPart "metadata" fields with
  | error failure => rfl
  | ok metadata => rfl

theorem exists_ofPart_iff {fields : List (String × Json)} :
    (∃ found, ofPart fields = .ok found) ↔
      ∃ annotations, annotationsOf fields = .ok annotations ∧ Converts annotations := by
  simp only [ofPart_eq, bind_eq_ok_iff, mapError_eq_ok_iff]
  constructor
  · rintro ⟨found, annotations, hannotations, hfound⟩
    exact ⟨annotations, hannotations, exists_overrides_iff.mp ⟨found, hfound⟩⟩
  · rintro ⟨annotations, hannotations, hconverts⟩
    obtain ⟨found, hfound⟩ := exists_overrides_iff.mpr hconverts
    exact ⟨found, annotations, hannotations, hfound⟩

theorem ofPart_eq_refusal_iff {fields : List (String × Json)} {refusal : Refusal} :
    ofPart fields = .error (.refusal refusal) ↔
      ∃ annotations kind, annotationsOf fields = .ok annotations ∧ Refuses annotations kind ∧
        refusal = .notIterable kind := by
  rw [ofPart_eq, bind_eq_error_iff, or_iff_right (mapError_failure_ne_refusal _ _)]
  simp only [mapError_eq_ok_iff, overrides_eq_refusal_iff]
  constructor
  · rintro ⟨annotations, hannotations, kind, hrefuses, heq⟩
    exact ⟨annotations, kind, hannotations, hrefuses, heq⟩
  · rintro ⟨annotations, kind, hannotations, hrefuses, heq⟩
    exact ⟨annotations, hannotations, kind, hrefuses, heq⟩

/-- An event is refused for the annotations of its check, or for those of its entity if the ones of
the check convert. -/
inductive EventRefuses : Json → ScalarKind → Prop where
  | check {event check entity annotations : List (String × Json)} {kind : ScalarKind}
      (hcheck : requiredPart "check" event = .ok check)
      (hentity : requiredPart "entity" event = .ok entity)
      (hannotations : annotationsOf check = .ok annotations) (h : Refuses annotations kind) :
      EventRefuses (.object event) kind
  | entity {event check entity first annotations : List (String × Json)} {kind : ScalarKind}
      (hcheck : requiredPart "check" event = .ok check)
      (hentity : requiredPart "entity" event = .ok entity)
      (hfirst : annotationsOf check = .ok first) (hconverts : Converts first)
      (hannotations : annotationsOf entity = .ok annotations) (h : Refuses annotations kind) :
      EventRefuses (.object event) kind

theorem ofEvent_of_parts {event check entity : List (String × Json)}
    (hcheck : requiredPart "check" event = .ok check)
    (hentity : requiredPart "entity" event = .ok entity) :
    ofEvent (.object event) = (do
      let first ← ofPart check
      let second ← ofPart entity
      return first ++ second) := by
  simp only [ofEvent, hcheck, hentity]
  rfl

theorem ofEvent_eq_refusal_iff {event : Json} {refusal : Refusal} :
    ofEvent event = .error (.refusal refusal) ↔
      ∃ kind, EventRefuses event kind ∧ refusal = .notIterable kind := by
  constructor
  · intro h
    unfold ofEvent at h
    split at h
    · next fields =>
      obtain ⟨check, hcheck, h⟩ := (bind_eq_error_iff.mp h).resolve_left (mapError_failure_ne_refusal _ _)
      obtain ⟨entity, hentity, h⟩ := (bind_eq_error_iff.mp h).resolve_left (mapError_failure_ne_refusal _ _)
      rw [mapError_eq_ok_iff] at hcheck hentity
      rcases bind_eq_error_iff.mp h with hrefused | ⟨found, hfound, h⟩
      · obtain ⟨annotations, kind, hannotations, hrefuses, rfl⟩ := ofPart_eq_refusal_iff.mp hrefused
        exact ⟨kind, .check hcheck hentity hannotations hrefuses, rfl⟩
      · obtain ⟨first, hfirst, hconverts⟩ := exists_ofPart_iff.mp ⟨found, hfound⟩
        rcases bind_eq_error_iff.mp h with hrefused | ⟨_, _, hdone⟩
        · obtain ⟨annotations, kind, hannotations, hrefuses, rfl⟩ :=
            ofPart_eq_refusal_iff.mp hrefused
          exact ⟨kind, .entity hcheck hentity hfirst hconverts hannotations hrefuses, rfl⟩
        · cases hdone
    · cases h
  · rintro ⟨kind, hrefuses, rfl⟩
    cases hrefuses with
    | check hcheck hentity hannotations h =>
      have hpart := ofPart_eq_refusal_iff.mpr ⟨_, kind, hannotations, h, rfl⟩
      rw [ofEvent_of_parts hcheck hentity]
      exact bind_eq_error_iff.mpr (.inl hpart)
    | entity hcheck hentity hfirst hconverts hannotations h =>
      obtain ⟨found, hfound⟩ := exists_ofPart_iff.mpr ⟨_, hfirst, hconverts⟩
      have hpart := ofPart_eq_refusal_iff.mpr ⟨_, kind, hannotations, h, rfl⟩
      rw [ofEvent_of_parts hcheck hentity]
      exact bind_eq_error_iff.mpr (.inr ⟨found, hfound, bind_eq_error_iff.mpr (.inl hpart)⟩)

end Annotations

/-! ## Thresholds -/

namespace Thresholds

/-- A blank setting is needed: the warning threshold first, then the critical one, then the query. -/
inductive MeetsBlank (draft : Draft) : Refusal → Prop where
  | warning (blank : .warning ∈ draft.blanks) : MeetsBlank draft (.emptyList .start)
  | critical {warning : Threshold} (given : .warning ∉ draft.blanks)
      (hwarning : Threshold.read draft.settings.warning = .ok warning)
      (blank : .critical ∈ draft.blanks) : MeetsBlank draft (.emptyList .start)
  | query {warning critical : Threshold} (warningGiven : .warning ∉ draft.blanks)
      (hwarning : Threshold.read draft.settings.warning = .ok warning)
      (criticalGiven : .critical ∉ draft.blanks)
      (hcritical : Threshold.read draft.settings.critical = .ok critical)
      (blank : .query ∈ draft.blanks) : MeetsBlank draft (.emptyList .trimming)

theorem MeetsBlank.exists_mem {draft : Draft} {refusal : Refusal} (h : MeetsBlank draft refusal) :
    ∃ setting, setting ∈ draft.blanks := by
  cases h with
  | warning blank => exact ⟨_, blank⟩
  | critical _ _ blank => exact ⟨_, blank⟩
  | query _ _ _ _ blank => exact ⟨_, blank⟩

theorem ofDraft_eq_refusal_iff {draft : Draft} {refusal : Refusal} :
    ofDraft draft = .error (.refusal refusal) ↔ MeetsBlank draft refusal := by
  have hneed {setting : Setting} {demand : Demand} :
      (draft.need setting demand).mapError Trouble.refusal = .error (.refusal refusal) ↔
        setting ∈ draft.blanks ∧ refusal = .emptyList demand := by
    rw [mapError_eq_error_iff]
    simp only [Trouble.refusal.injEq, exists_eq_right, Draft.need_eq_error_iff]
  unfold ofDraft
  simp only [bind_eq_error_iff, mapError_eq_ok_iff, Draft.need_eq_ok_iff, readFlag_eq_ok_iff, hneed,
    mapError_failure_ne_refusal, false_or]
  constructor
  · rintro (⟨hblank, rfl⟩ | ⟨_, hwarningGiven, warning, hwarning, ⟨hblank, rfl⟩ |
      ⟨_, hcriticalGiven, critical, hcritical, ⟨hblank, rfl⟩ | ⟨_, _, hdone⟩⟩⟩)
    · exact .warning hblank
    · exact .critical hwarningGiven hwarning hblank
    · exact .query hwarningGiven hwarning hcriticalGiven hcritical hblank
    · split at hdone <;> cases hdone
  · intro h
    cases h with
    | warning hblank => exact .inl ⟨hblank, rfl⟩
    | critical hwarningGiven hwarning hblank =>
      exact .inr ⟨(), hwarningGiven, _, hwarning, .inl ⟨hblank, rfl⟩⟩
    | query hwarningGiven hwarning hcriticalGiven hcritical hblank =>
      exact .inr ⟨(), hwarningGiven, _, hwarning,
        .inr ⟨(), hcriticalGiven, _, hcritical, .inl ⟨hblank, rfl⟩⟩⟩

end Thresholds

end SqlGauge
