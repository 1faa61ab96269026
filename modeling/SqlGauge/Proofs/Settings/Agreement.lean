import SqlGauge.Proofs.Program.Return
import SqlGauge.Proofs.Settings.Overrides
import SqlGauge.Proofs.Settings.Precedence

/-!
# One text for a setting, given in four ways

A setting can be given a text by a flag, by an environment variable, and by an annotation of the check
or of the entity of an event. All of these are read by the same conversion in the end, but limits are
checked in different places. `Settings.ways_agree` says that the settings are the same in all ways, or
that all of them fail.

`Settles` compares each way with what the text says (`Layer.one`), so that the ways need not be
compared with each other: `settles_assign`, `settles_environment`, `settles_check` and
`settles_entity`.
-/

namespace SqlGauge

namespace Settings

open Flags Annotations

/-- The request after an event. -/
def Request.after (event : Json) : Request → Except Trouble Request
  | .help => .ok .help
  | .check draft => (draft.overriddenBy event).map .check

/-! ## What comes of a layer -/

/-- What comes of a layer over the built-in values: valid settings that follow it, or else a failure
about settings. -/
inductive Settles (layer : Layer) : Except Trouble Request → Prop where
  | settled {settings : Settings} (follows : Follows layer {} settings)
      (valid : settings.validate = .ok ()) : Settles layer (.ok (.check { settings }))
  | failed {failure : Failure} (kind : failure.cause.kind = .settings)
      (none : ∀ settings, Follows layer {} settings → settings.validate ≠ .ok ()) :
      Settles layer (.error (.failure failure))

/-- All results are the same settings, or all are failures about settings. -/
inductive Agree (results : List (Except Trouble Request)) : Prop where
  | settled (settings : Settings) (h : ∀ result ∈ results, result = .ok (.check { settings }))
  | failed (h : ∀ result ∈ results, ∃ failure, result = .error (.failure failure) ∧
      failure.cause.kind = .settings)

theorem agree_of_settles {layer : Layer} {results : List (Except Trouble Request)}
    (h : ∀ result ∈ results, Settles layer result) : Agree results := by
  by_cases hsettled : ∃ settings, Follows layer {} settings ∧ settings.validate = .ok ()
  · obtain ⟨settings, hfollows, hvalid⟩ := hsettled
    refine .settled settings fun result hresult => ?_
    cases h result hresult with
    | settled follows => rw [follows.unique hfollows]
    | failed _ none => exact absurd hvalid (none settings hfollows)
  · refine .failed fun result hresult => ?_
    cases h result hresult with
    | settled follows valid => exact absurd ⟨_, follows, valid⟩ hsettled
    | failed kind => exact ⟨_, rfl, kind⟩

theorem kind_of_validate {settings : Settings} {failure : Failure}
    (h : settings.validate = .error failure) : failure.cause.kind = .settings := by
  have hvalidate := Draft.failsAs_validate { settings }
  rw [Draft.validate_complete, h] at hvalidate
  exact (hvalidate _ rfl).kind

theorem settles_of_follows {layer : Layer} {settings : Settings}
    (hfollows : Follows layer {} settings) :
    Settles layer ((settings.validate.mapError .failure).map fun _ => .check { settings }) := by
  cases hvalidate : settings.validate with
  | ok done => exact .settled hfollows hvalidate
  | error failure =>
    refine .failed (kind_of_validate hvalidate) fun other hother => ?_
    rw [hother.unique hfollows, hvalidate]
    exact nofun

/-! ## The environment -/

theorem settles_environment (environment : Environment) :
    Settles (Environment.layer environment) (read [] environment) := by
  cases hfallbacks : ofEnvironment environment with
  | error trouble =>
    obtain ⟨failure, rfl⟩ := failsAs_ofEnvironment_failure environment trouble hfallbacks
    have hread : read [] environment = .error (.failure failure) := by
      unfold read
      rw [hfallbacks]
      rfl
    rw [hread]
    refine .failed (failsAs_ofEnvironment environment _ hfallbacks).kind fun settings hfollows => ?_
    rw [ofEnvironment_eq_ok_iff.mpr hfollows] at hfallbacks
    cases hfallbacks
  | ok settings =>
    rw [@read_of_apply environment [] settings settings hfallbacks rfl]
    exact settles_of_follows (ofEnvironment_eq_ok_iff.mp hfallbacks)

theorem layer_variable (setting : Setting) (text : String) :
    Environment.layer [(setting.variableName, text)] = .one setting text := by
  funext other
  by_cases hsame : setting = other
  · subst hsame
    unfold Environment.layer
    rw [List.lookup_cons_self, Layer.one_same]
    rfl
  · have hname : (other.variableName == setting.variableName) = false := by
      cases setting <;> cases other <;> first | decide | exact absurd rfl hsame
    unfold Environment.layer
    rw [List.lookup_cons, hname, Layer.one_of_ne text hsame]
    rfl

/-! ## Flags -/

/-- A text that cannot be used fails, unless it gives no value. -/
theorem exists_take_failure {setting : Setting} {valued : switch? setting = none} {text : String}
    (htext : text ≠ noValue) (h : ¬ (Token.assign setting valued text).Usable) (taken : Taken) :
    ∃ failure, Token.take taken (.assign setting valued text) = .error (.failure failure) := by
  rw [Token.take_assign, give, if_neg htext]
  have hlist : setting ≠ .queryArgs := by
    -- any text stands for a list
    rintro rfl
    exact h ⟨htext, ⟨_, rfl⟩, fun hdriver => absurd hdriver (by decide)⟩
  rw [if_neg hlist]
  split
  · exact ⟨_, rfl⟩
  · next hdriver =>
    cases hconvert : setting.convert (.string text) with
    | error trouble => exact ⟨_, rfl⟩
    | ok value =>
      refine absurd ⟨htext, ⟨value, hconvert⟩, fun hsetting => ?_⟩ h
      exact Decidable.of_not_not fun hwrong => hdriver ⟨hsetting, hwrong⟩

theorem layer_assign (setting : Setting) (valued : switch? setting = none) (text : String) :
    (Token.layer [.assign setting valued text]).above (Environment.layer []) =
      .one setting text := by
  funext other
  show (Token.layer [.assign setting valued text] other).or none = _
  rw [Option.or_none]
  by_cases hlist : other = .queryArgs
  · subst hlist
    by_cases hsame : setting = .queryArgs
    · subst hsame
      show some (Except.ok (splitCommas text ++ [])) = _
      rw [List.append_nil, Layer.one_same]
      rfl
    · rw [Layer.one_of_ne text hsame]
      refine Token.layer_eq_none_iff.mpr (List.forall_mem_singleton.mpr ?_)
      exact hsame
  · have hsaid : (Token.assign setting valued text).said other = Layer.one setting text other := rfl
    rw [Token.layer_of_ne hlist, List.filterMap_cons, List.filterMap_nil, hsaid]
    cases Layer.one setting text other <;> rfl

theorem settles_assign {setting : Setting} (valued : switch? setting = none) {text : String}
    (htext : text ≠ noValue) :
    Settles (.one setting text) (read [(Token.assign setting valued text).text] []) := by
  have henvironment : (Environment.layer []).Converts := by
    intro setting said hsaid
    cases hsaid
  by_cases husable : (Token.assign setting valued text).Usable
  · obtain ⟨settings, hfollows, hread⟩ :=
      exists_read_tokens (List.forall_mem_singleton.mpr husable) henvironment
    rw [layer_assign] at hfollows
    change read [(Token.assign setting valued text).text] [] = _ at hread
    rw [hread]
    exact settles_of_follows hfollows
  · -- the flag fails, and what it says cannot be followed by valid settings
    obtain ⟨fallbacks, hfallbacks⟩ := exists_ofEnvironment henvironment
    obtain ⟨failure, htake⟩ :=
      exists_take_failure htext husable { draft := { settings := fallbacks } }
    have happly : apply fallbacks [(Token.assign setting valued text).text] =
        .error (.failure failure) := by
      have htokens := apply_tokens fallbacks [.assign setting valued text]
      rw [List.foldlM_cons, htake] at htokens
      exact htokens
    have hread : read [(Token.assign setting valued text).text] [] = .error (.failure failure) := by
      unfold read
      rw [hfallbacks]
      simp only [bind, Except.bind, happly]
    have hkind := (failsAs_read _ _ _ hread).kind
    rw [hread]
    refine .failed hkind fun settings hfollows hvalid => husable ⟨htext, ?_, ?_⟩
    · exact ⟨_, hfollows.get_of_said (Layer.one_same setting text)⟩
    · rintro rfl
      have hdriver : text = settings.driver :=
        Except.ok.inj (hfollows.get_of_said (Layer.one_same .driver text))
      rw [hdriver]
      exact (validate_eq_ok_iff.mp hvalid).1

/-! ## Events -/

/-- The annotations of an event that are about settings: those of its check, and those of its entity.
-/
inductive Carries (event : Json) (first second : List (String × Json)) : Prop where
  | of {check entity annotations others : List (String × Json)} (wellFormed : event.WellFormed)
      (about : About event check entity) (hcheck : Annotated check annotations)
      (hentity : Annotated entity others) (hfirst : concerning annotations = first)
      (hsecond : concerning others = second) : Carries event first second

/-- The annotation that gives a setting a text. -/
def note (setting : Setting) (text : String) : String × Json :=
  (keyspace ++ setting.path, .string text)

theorem validate_default : ({} : Settings).validate = .ok () := by
  decide +kernel

theorem read_nothing : read [] [] = .ok (.check { settings := {} }) := by
  rw [@read_of_apply [] [] {} {} (ofEnvironment_eq_ok_iff.mpr fun _ => rfl) rfl, validate_default]
  rfl

theorem settles_event {event : Json} {first second : List (String × Json)}
    (hcarries : Carries event first second)
    (hlists : ∀ raw, (keyspace ++ Setting.queryArgs.path, raw) ∈ first ++ second → Listable raw)
    (hconverts : ∀ settings, Follows ((layer second).above (layer first)) {} settings →
      Converts first ∧ Converts second) :
    Settles ((layer second).above (layer first)) (read [] [] >>= Request.after event) := by
  obtain ⟨hevent, habout, hcheck, hentity, rfl, rfl⟩ := hcarries
  obtain ⟨hpart, hpart'⟩ := habout.wellFormed hevent
  rw [layer_concerning (hcheck.distinct hpart), layer_concerning (hentity.distinct hpart')]
    at hconverts ⊢
  simp only [converts_concerning_iff] at hconverts
  have hread : (read [] [] >>= Request.after event) =
      (overriddenBy {} event).map fun after => .check { settings := after } := by
    rw [read_nothing]
    show (Draft.overriddenBy { settings := {} } event).map Request.check = _
    rw [Draft.overriddenBy_complete]
    cases overriddenBy {} event <;> rfl
  rw [hread]
  cases hafter : overriddenBy {} event with
  | ok after =>
    have hoverridden := (overriddenBy_eq_ok_iff hevent habout).mp hafter
    have hvalid := hoverridden.valid validate_default
    cases hoverridden with
    | of hfirst hsecond _ _ hfollows =>
      cases hfirst.unique hcheck
      cases hsecond.unique hentity
      exact .settled hfollows hvalid
  | error trouble =>
    obtain ⟨failure, rfl, hkind⟩ : ∃ failure, trouble = .failure failure ∧
        failure.cause.kind = .settings := by
      refine failure_of_overriddenBy habout ?_ hafter
      rintro annotations (h | h) raw hmem
      · cases h.unique hcheck
        exact hlists raw (List.mem_append_left _ (mem_concerning_iff.mpr hmem))
      · cases h.unique hentity
        exact hlists raw (List.mem_append_right _ (mem_concerning_iff.mpr hmem))
    -- settings that follow the annotations would have come out
    refine .failed hkind fun settings hfollows hvalid => ?_
    obtain ⟨hfirst, hsecond⟩ := hconverts settings hfollows
    rw [(overriddenBy_eq_ok_iff hevent habout).mpr
      (.of hcheck hentity hfirst hsecond hfollows fun _ => hvalid)] at hafter
    cases hafter

section

variable {setting : Setting} {text : String} {event onCheck onEntity : Json}

theorem layer_note (setting : Setting) (text : String) :
    layer [note setting text] = .one setting text := by
  funext other
  by_cases hsame : setting = other
  · subst hsame
    unfold layer note
    rw [Json.field?, if_pos rfl, Layer.one_same]
    rfl
  · have hkey : keyspace ++ setting.path ≠ keyspace ++ other.path := by
      intro heq
      have hfound := setting?_eq_some_iff.mpr heq
      rw [setting?_eq_some_iff.mpr rfl] at hfound
      exact hsame (Option.some.inj hfound)
    rw [note, layer_of_ne hkey, Layer.one_of_ne text hsame]
    rfl

theorem converts_note (h : ∃ value, setting.convert (.string text) = .ok value) :
    Converts [note setting text] := by
  have hkey : setting? (note setting text).1 = some setting := setting?_eq_some_iff.mpr rfl
  refine List.forall_mem_singleton.mpr fun other hother => ?_
  rw [hkey] at hother
  cases hother
  exact h

theorem listable_of_mem_note {key : String} {raw : Json} (h : (key, raw) ∈ [note setting text]) :
    Listable raw := by
  cases List.mem_singleton.mp h
  exact .string text

theorem settles_check (h : Carries event [note setting text] []) :
    Settles (.one setting text) (read [] [] >>= Request.after event) := by
  have hlayer : (layer []).above (layer [note setting text]) = .one setting text :=
    layer_note setting text
  rw [← hlayer]
  refine settles_event h ?_ ?_
  · intro raw hmem
    exact listable_of_mem_note hmem
  · intro settings hfollows
    rw [hlayer] at hfollows
    refine ⟨converts_note ⟨_, hfollows.get_of_said (Layer.one_same setting text)⟩, ?_⟩
    exact List.forall_mem_nil _

theorem settles_entity (h : Carries event [] [note setting text]) :
    Settles (.one setting text) (read [] [] >>= Request.after event) := by
  have hlayer : (layer [note setting text]).above (layer []) = .one setting text := by
    rw [layer_note]
    funext other
    exact Option.or_none
  rw [← hlayer]
  refine settles_event h ?_ ?_
  · intro raw hmem
    exact listable_of_mem_note hmem
  · intro settings hfollows
    rw [hlayer] at hfollows
    refine ⟨List.forall_mem_nil _, ?_⟩
    exact converts_note ⟨_, hfollows.get_of_said (Layer.one_same setting text)⟩

/-! ## Agreement -/

/-- A text gives a setting the same value in the environment, on the check and on the entity of an
event, and as a flag if the setting takes a value and the text is not the one that gives none; or it
is refused everywhere. -/
theorem ways_agree (hcheck : Carries onCheck [note setting text] [])
    (hentity : Carries onEntity [] [note setting text]) :
    Agree [read [] [(setting.variableName, text)], read [] [] >>= Request.after onCheck,
      read [] [] >>= Request.after onEntity] ∧
    (setting.kind ≠ .truth → text ≠ noValue →
      Agree [read ["--" ++ setting.longName ++ "=" ++ text] [],
        read [] [(setting.variableName, text)], read [] [] >>= Request.after onCheck,
        read [] [] >>= Request.after onEntity]) := by
  have hvariable : Settles (.one setting text) (read [] [(setting.variableName, text)]) := by
    rw [← layer_variable]
    exact settles_environment _
  have hways : ∀ result ∈ [read [] [(setting.variableName, text)],
      read [] [] >>= Request.after onCheck, read [] [] >>= Request.after onEntity],
        Settles (.one setting text) result := by
    simp only [List.forall_mem_cons]
    exact ⟨hvariable, settles_check hcheck, settles_entity hentity, List.forall_mem_nil _⟩
  refine ⟨agree_of_settles hways, fun hkind htext => ?_⟩
  have hvalued : switch? setting = none := by
    cases setting <;> first | rfl | exact absurd rfl hkind
  have hword : (Token.assign setting hvalued text).text = "--" ++ setting.longName ++ "=" ++ text := by
    have hspelling : String.ofList ('-' :: '-' :: setting.longName.toList) =
        "--" ++ setting.longName := by
      rw [← String.toList_inj, String.toList_append, String.toList_ofList]
      rfl
    rw [Token.text, ← hspelling]
    rfl
  have hflag := settles_assign hvalued htext
  rw [hword] at hflag
  exact agree_of_settles (List.forall_mem_cons.mpr ⟨hflag, hways⟩)

end

/-- The timeout in four ways. -/
theorem ways_agree_timeout :
    Agree [read ["--timeout=2.5"] [], read [] [("SQL_TIMEOUT", "2.5")],
      read [] [] >>= Request.after (eventOf [(keyspace ++ "timeout", "2.5")] []),
      read [] [] >>= Request.after (eventOf [] [(keyspace ++ "timeout", "2.5")])] := by
  have hcheck : Carries (eventOf [(keyspace ++ "timeout", "2.5")] []) [note .timeout "2.5"] [] :=
    .of (wellFormed_eventOf (by decide) (by decide)) (about_eventOf _ _) (annotated_partOf _)
      (annotated_partOf _) rfl rfl
  have hentity : Carries (eventOf [] [(keyspace ++ "timeout", "2.5")]) [] [note .timeout "2.5"] :=
    .of (wellFormed_eventOf (by decide) (by decide)) (about_eventOf _ _) (annotated_partOf _)
      (annotated_partOf _) rfl rfl
  exact (ways_agree hcheck hentity).2 (by decide) (by decide)

end Settings

end SqlGauge
