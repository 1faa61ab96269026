import SqlGauge.Proofs.Settings.Blanks
import SqlGauge.Proofs.Settings.Layer
import SqlGauge.Proofs.Settings.Tokens
import SqlGauge.Proofs.Settings.Valid

/-!
# Flags over the environment

What tokens say is a layer (`Flags.Token.layer`): of a setting what its last token says, of the list
the items of all its tokens. `Flags.Taken.Gathered` relates what has been taken to the tokens so far,
and each token that can be used preserves it (`Flags.Taken.Gathered.take`). So in the end the settings
follow the tokens, over those of the environment (`Settings.exists_read_tokens`).

`Settings.read_tokens` draws the conclusions: neither the order of flags of different settings counts,
nor what the environment says where there is a flag.
-/

namespace SqlGauge

namespace Flags

/-! ## What tokens say -/

namespace Token

/-- The value converts, and a driver is there. -/
def Usable : Token → Prop
  | assign setting _ text =>
    text ≠ noValue ∧ (∃ value, setting.convert (.string text) = .ok value) ∧
      (setting = .driver → text ∈ Settings.allowedDrivers)
  | turn _ _ => True

/-- What a token says, just of the setting that it gives. -/
def said : Token → Layer
  | assign setting _ text => .one setting text
  | turn .unquote on => fun
    | .unquote => some (.ok on)
    | _ => none
  | turn .debug on => fun
    | .debug => some (.ok on)
    | _ => none

/-- The items that a token adds to the list. -/
def items? : Token → Option (List String)
  | assign .queryArgs _ text => some (splitCommas text)
  | _ => none

/-- The items of all tokens for the list, if there are any such tokens. -/
def listed? (tokens : List Token) : Option (List String) :=
  match tokens.filterMap items? with
  | [] => none
  | lists => some lists.flatten

/-- What tokens say: of a setting what its last one says, of the list the items of all. -/
def layer (tokens : List Token) : Layer
  | .queryArgs => (listed? tokens).map .ok
  | setting => (tokens.filterMap fun token => token.said setting).getLast?

section

variable {token : Token} {tokens : List Token} {setting : Setting}

theorem said_of_ne (h : token.setting ≠ setting) : token.said setting = none := by
  cases token with
  | assign given valued text => exact Layer.one_of_ne text h
  | turn switch on =>
    cases switch with
    | unquote => cases setting <;> first | rfl | exact absurd rfl h
    | debug => cases setting <;> first | rfl | exact absurd rfl h

theorem said_setting_ne_none (token : Token) : token.said token.setting ≠ none := by
  cases token with
  | assign given valued text =>
    show Layer.one given text given ≠ none
    rw [Layer.one_same]
    exact Option.some_ne_none _
  | turn switch on => cases switch <;> exact Option.some_ne_none _

theorem items?_eq_none_iff : token.items? = none ↔ token.setting ≠ .queryArgs := by
  cases token with
  | assign given valued text => cases given <;> simp [items?, Token.setting]
  | turn switch on => cases switch <;> simp [items?, Token.setting, Switch.setting]

theorem layer_of_ne (h : setting ≠ .queryArgs) :
    layer tokens setting = (tokens.filterMap fun token => token.said setting).getLast? := by
  cases setting <;> first | rfl | exact absurd rfl h

theorem layer_append (h : setting ≠ .queryArgs) :
    layer (tokens ++ [token]) setting = (token.said setting).or (layer tokens setting) := by
  rw [layer_of_ne h, layer_of_ne h, List.filterMap_append, List.getLast?_append]
  cases hsaid : token.said setting <;> simp [hsaid]

theorem listed?_append :
    listed? (tokens ++ [token]) =
      match token.items? with
      | none => listed? tokens
      | some items => some ((listed? tokens).getD [] ++ items) := by
  unfold listed?
  rw [List.filterMap_append]
  cases hitems : token.items? with
  | none => simp [hitems]
  | some items =>
    cases htokens : tokens.filterMap items? <;> simp [hitems]

theorem listed?_eq_none_iff : listed? tokens = none ↔ ∀ token ∈ tokens, token.setting ≠ .queryArgs := by
  unfold listed?
  simp only [← items?_eq_none_iff, ← List.filterMap_eq_nil_iff]
  cases tokens.filterMap items? <;> simp

/-- Tokens say nothing of the settings that they do not give. -/
theorem layer_eq_none_iff :
    layer tokens setting = none ↔ ∀ token ∈ tokens, token.setting ≠ setting := by
  by_cases hlist : setting = .queryArgs
  · subst hlist
    exact Iff.trans Option.map_eq_none_iff listed?_eq_none_iff
  · rw [layer_of_ne hlist, List.getLast?_eq_none_iff, List.filterMap_eq_nil_iff]
    refine forall₂_congr fun token _ => ⟨?_, said_of_ne⟩
    rintro h rfl
    exact said_setting_ne_none token h

/-- Just the order of the tokens of each setting counts. -/
theorem layer_congr {others : List Token}
    (h : ∀ setting, others.filter (·.setting = setting) = tokens.filter (·.setting = setting)) :
    layer others = layer tokens := by
  have hsaid (tokens : List Token) (setting : Setting) :
      (tokens.filterMap fun token => token.said setting) =
        (tokens.filter (·.setting = setting)).filterMap fun token => token.said setting := by
    rw [List.filterMap_filter]
    refine congrArg (fun said => List.filterMap said tokens) (funext fun token => ?_)
    by_cases hsetting : token.setting = setting
    · simp [hsetting]
    · simp [hsetting, said_of_ne hsetting]
  have hlisted (tokens : List Token) :
      tokens.filterMap items? = (tokens.filter (·.setting = .queryArgs)).filterMap items? := by
    rw [List.filterMap_filter]
    refine congrArg (fun items? => List.filterMap items? tokens) (funext fun token => ?_)
    by_cases hsetting : token.setting = .queryArgs
    · simp [hsetting]
    · simp [hsetting, items?_eq_none_iff.mpr hsetting]
  funext setting
  by_cases hlist : setting = .queryArgs
  · subst hlist
    show (listed? others).map _ = (listed? tokens).map _
    unfold listed?
    rw [hlisted others, hlisted tokens, h]
  · rw [layer_of_ne hlist, layer_of_ne hlist, hsaid others, hsaid tokens, h]

end

end Token

/-! ## What has been taken -/

/-- What has been taken is what the tokens so far say. The list is kept apart until the end. -/
structure Taken.Gathered (fallbacks : Settings) (tokens : List Token) (taken : Taken) : Prop where
  blanks : taken.draft.blanks = []
  items : taken.items = Token.listed? tokens
  list : taken.draft.settings.queryArgs = fallbacks.queryArgs
  values : ∀ setting, setting ≠ .queryArgs →
    (Token.layer tokens setting).getD (.ok (fallbacks.get setting)) =
      .ok (taken.draft.settings.get setting)

section

variable {fallbacks : Settings} {tokens before : List Token} {token : Token} {taken : Taken}

theorem Taken.Gathered.start (fallbacks : Settings) :
    Gathered fallbacks [] { draft := { settings := fallbacks } } where
  blanks := rfl
  items := rfl
  list := rfl
  values setting hsetting := by
    rw [Token.layer_of_ne hsetting]
    rfl

/-- A value more. -/
theorem Taken.Gathered.set (h : Gathered fallbacks tokens taken) {setting : Setting}
    {value : setting.Value} (hgiven : token.setting = setting) (hlist : setting ≠ .queryArgs)
    (hsaid : token.said setting = some (.ok value)) :
    Gathered fallbacks (tokens ++ [token])
      { taken with draft := taken.draft.set setting value } where
  blanks := blanks_set h.blanks setting value
  items := by
    rw [Token.listed?_append, Token.items?_eq_none_iff.mpr (hgiven ▸ hlist)]
    exact h.items
  list := by
    have hkept := taken.draft.settings.get_set_of_ne value hlist.symm
    exact hkept.trans h.list
  values other hother := by
    rw [Token.layer_append hother]
    by_cases hsame : other = setting
    · subst hsame
      rw [hsaid, Option.some_or, Option.getD_some]
      exact congrArg Except.ok (taken.draft.settings.get_set other value).symm
    · rw [Token.said_of_ne fun heq => hsame (heq.symm.trans hgiven), Option.none_or,
        h.values other hother]
      exact congrArg Except.ok (taken.draft.settings.get_set_of_ne value hsame).symm

/-- Items more. -/
theorem Taken.Gathered.add (h : Gathered fallbacks tokens taken) {items : List String}
    (hitems : token.items? = some items) :
    Gathered fallbacks (tokens ++ [token]) (taken.add items) where
  blanks := h.blanks
  items := by
    rw [Token.listed?_append, hitems, Taken.add, h.items]
  list := h.list
  values other hother := by
    have hgiven : token.setting = .queryArgs := by
      refine Decidable.of_not_not fun hne => ?_
      rw [Token.items?_eq_none_iff.mpr hne] at hitems
      cases hitems
    rw [Token.layer_append hother, Token.said_of_ne (hgiven ▸ hother.symm), Option.none_or]
    exact h.values other hother

/-- A token that can be used is taken. -/
theorem Taken.Gathered.take (h : Gathered fallbacks tokens taken) (husable : token.Usable) :
    ∃ next, token.take taken = .ok next ∧ Gathered fallbacks (tokens ++ [token]) next := by
  cases token with
  | turn switch on =>
    rw [Token.take_turn]
    refine ⟨_, rfl, ?_⟩
    cases switch with
    | unquote => exact h.set rfl (by decide) rfl
    | debug => exact h.set rfl (by decide) rfl
  | assign setting valued text =>
    obtain ⟨hvalue, ⟨value, hconvert⟩, hdriver⟩ := husable
    rw [Token.take_assign, give, if_neg hvalue]
    by_cases hlist : setting = .queryArgs
    · subst hlist
      rw [if_pos rfl]
      exact ⟨_, rfl, h.add rfl⟩
    · rw [if_neg hlist, if_neg fun hwrong => hwrong.2 (hdriver hwrong.1), hconvert]
      refine ⟨_, rfl, h.set rfl hlist ?_⟩
      show Layer.one setting text setting = _
      rw [Layer.one_same, hconvert]

/-- So are tokens one after the other. -/
theorem Taken.Gathered.run (h : Gathered fallbacks before taken)
    (husable : ∀ token ∈ tokens, token.Usable) :
    ∃ final, tokens.foldlM Token.take taken = .ok final ∧
      Gathered fallbacks (before ++ tokens) final := by
  induction tokens generalizing before taken with
  | nil => exact ⟨taken, rfl, (List.append_nil before).symm ▸ h⟩
  | cons token rest ih =>
    obtain ⟨htoken, hrest⟩ := List.forall_mem_cons.mp husable
    obtain ⟨next, hnext, hgathered⟩ := h.take htoken
    obtain ⟨final, hfinal, hgathered⟩ := ih hgathered hrest
    rw [List.append_assoc] at hgathered
    refine ⟨final, ?_, hgathered⟩
    rw [List.foldlM_cons, hnext]
    exact hfinal

/-- In the end the settings are what the tokens say. -/
theorem Taken.Gathered.result (h : Gathered fallbacks tokens taken) :
    ∃ settings, taken.result = { settings } ∧
      Settings.Follows (Token.layer tokens) fallbacks settings := by
  have hdraft : taken.draft = { settings := taken.draft.settings } := by
    rw [← h.blanks]
  have hitems := h.items
  unfold Taken.result
  cases hlisted : Token.listed? tokens with
  | none =>
    rw [hlisted] at hitems
    rw [hitems]
    -- no token for the list, which is what it was
    refine ⟨_, hdraft, fun setting => ?_⟩
    by_cases hlist : setting = .queryArgs
    · subst hlist
      show ((Token.listed? tokens).map Except.ok).getD _ = _
      rw [hlisted]
      exact congrArg Except.ok h.list.symm
    · exact h.values setting hlist
  | some items =>
    rw [hlisted] at hitems
    rw [hitems]
    refine ⟨taken.draft.settings.set .queryArgs items, ?_, fun setting => ?_⟩
    · dsimp only
      rw [hdraft]
      exact Draft.set_complete _ _ _
    · by_cases hlist : setting = .queryArgs
      · subst hlist
        show ((Token.listed? tokens).map Except.ok).getD _ = _
        rw [hlisted]
        rfl
      · have hkept := @Settings.get_set_of_ne taken.draft.settings .queryArgs setting items hlist
        exact (h.values setting hlist).trans (congrArg Except.ok hkept.symm)

end

/-- Tokens that can be used give settings that follow them. -/
theorem exists_apply_tokens {tokens : List Token} (husable : ∀ token ∈ tokens, token.Usable)
    (fallbacks : Settings) :
    ∃ settings, apply fallbacks (tokens.map Token.text) = .ok { settings } ∧
      Settings.Follows (Token.layer tokens) fallbacks settings := by
  obtain ⟨final, hfinal, hgathered⟩ := (Taken.Gathered.start fallbacks).run husable
  obtain ⟨settings, hresult, hfollows⟩ := Taken.Gathered.result hgathered
  refine ⟨settings, ?_, hfollows⟩
  rw [apply_tokens, hfinal, ← hresult]
  rfl

end Flags

namespace Settings

open Flags

section

variable {tokens : List Token} {environment : Environment}

theorem read_of_apply {arguments : List String} {fallbacks settings : Settings}
    (hfallbacks : ofEnvironment environment = .ok fallbacks)
    (happly : apply fallbacks arguments = .ok { settings }) :
    read arguments environment =
      (settings.validate.mapError .failure).map fun _ => .check { settings } := by
  unfold read
  rw [hfallbacks]
  simp only [bind, Except.bind, happly, Draft.validate_complete]
  cases settings.validate <;> rfl

/-- Flags are followed over the environment, and what comes of them is validated. -/
theorem exists_read_tokens (husable : ∀ token ∈ tokens, token.Usable)
    (henvironment : (Environment.layer environment).Converts) :
    ∃ settings, Follows ((Token.layer tokens).above (Environment.layer environment)) {} settings ∧
      read (tokens.map Token.text) environment =
        (settings.validate.mapError .failure).map fun _ => .check { settings } := by
  obtain ⟨fallbacks, hfallbacks⟩ := exists_ofEnvironment henvironment
  obtain ⟨settings, happly, hfollows⟩ := exists_apply_tokens husable fallbacks
  exact ⟨settings, (ofEnvironment_eq_ok_iff.mp hfallbacks).trans hfollows,
    read_of_apply hfallbacks happly⟩

/-- Flags come before the environment, and that before what is built in (`Settings.Follows`). Of
several flags of a setting the last one counts, but a list gathers the items of all
(`Flags.Token.layer`). So the order of flags of different settings does not count, and neither does
the environment where there is a flag. -/
theorem read_tokens (husable : ∀ token ∈ tokens, token.Usable)
    (henvironment : (Environment.layer environment).Converts) :
    ∃ settings, Follows ((Token.layer tokens).above (Environment.layer environment)) {} settings ∧
      (settings.validate = .ok () →
        read (tokens.map Token.text) environment = .ok (.check { settings })) ∧
      (∀ failure, settings.validate = .error failure →
        read (tokens.map Token.text) environment = .error (.failure failure)) ∧
      (∀ reordered : List Token,
        (∀ setting, reordered.filter (·.setting = setting) = tokens.filter (·.setting = setting)) →
          read (reordered.map Token.text) environment = read (tokens.map Token.text) environment) ∧
      ∀ other : Environment, (Environment.layer other).Converts →
        (∀ setting, (∀ token ∈ tokens, token.setting ≠ setting) →
          setting.fallback other = setting.fallback environment) →
            read (tokens.map Token.text) other = read (tokens.map Token.text) environment := by
  obtain ⟨settings, hfollows, hread⟩ := exists_read_tokens husable henvironment
  refine ⟨settings, hfollows, ?_, ?_, ?_, ?_⟩
  · intro hvalid
    rw [hread, hvalid]
    rfl
  · intro failure hinvalid
    rw [hread, hinvalid]
    rfl
  · intro reordered hsame
    have husable' : ∀ token ∈ reordered, token.Usable := by
      intro token htoken
      have hmem : token ∈ reordered.filter (·.setting = token.setting) :=
        List.mem_filter.mpr ⟨htoken, decide_eq_true rfl⟩
      rw [hsame] at hmem
      exact husable token (List.mem_filter.mp hmem).1
    obtain ⟨settings', hfollows', hread'⟩ := exists_read_tokens husable' henvironment
    rw [Token.layer_congr hsame] at hfollows'
    rw [hread, hread', hfollows'.unique hfollows]
  · intro other hother hsame
    obtain ⟨settings', hfollows', hread'⟩ := exists_read_tokens husable hother
    -- what other settings fall back on is the same
    have habove :
        Follows ((Token.layer tokens).above (Environment.layer environment)) {} settings' := by
      intro setting
      rw [← hfollows' setting]
      show ((Token.layer tokens setting).or _).getD _ = ((Token.layer tokens setting).or _).getD _
      cases hsaid : Token.layer tokens setting with
      | some said => rfl
      | none =>
        have hfallback := hsame setting (Token.layer_eq_none_iff.mp hsaid)
        rw [Setting.fallback_eq, Setting.fallback_eq] at hfallback
        exact hfallback.symm
    rw [hread, hread', habove.unique hfollows]

end

/-- The last port counts and all the arguments; another order of the flags makes no difference, and of
the environment just the host is used. -/
theorem read_tokens_port :
    let given : List Token :=
      [.assign .port rfl "1", .turn .unquote true, .assign .queryArgs rfl "a,b",
        .assign .port rfl "2", .assign .queryArgs rfl "c"]
    let reordered : List Token :=
      [.assign .queryArgs rfl "a,b", .assign .queryArgs rfl "c", .assign .port rfl "1",
        .assign .port rfl "2", .turn .unquote true]
    let settings : Settings :=
      { host := "db", port := 2, queryArgs := ["a", "b", "c"], unquote := true }
    read (given.map Token.text) [("SQL_PORT", "7"), ("SQL_HOST", "db")] =
        .ok (.check { settings }) ∧
      read (reordered.map Token.text) [("SQL_PORT", "7"), ("SQL_HOST", "db")] =
        .ok (.check { settings }) ∧
      read (given.map Token.text) [("SQL_HOST", "db")] = .ok (.check { settings }) := by
  intro given reordered settings
  have husable : ∀ token ∈ given, token.Usable := by
    have hport (text : String) (h : text ≠ noValue)
        (hvalue : ∃ value, Setting.port.convert (.string text) = .ok value) :
        (Token.assign .port rfl text).Usable := ⟨h, hvalue, nofun⟩
    have hargs (text : String) (h : text ≠ noValue) : (Token.assign .queryArgs rfl text).Usable :=
      ⟨h, ⟨splitCommas text, rfl⟩, nofun⟩
    simp only [given, List.forall_mem_cons]
    exact ⟨hport "1" (by decide) ⟨_, rfl⟩, trivial, hargs "a,b" (by decide),
      hport "2" (by decide) ⟨_, rfl⟩, hargs "c" (by decide), List.forall_mem_nil _⟩
  obtain ⟨after, hfollows, hvalid, _, hreordered, hother⟩ :=
    @read_tokens given [("SQL_PORT", "7"), ("SQL_HOST", "db")] husable (by decide +kernel)
  have hsettings : Follows ((Token.layer given).above
      (Environment.layer [("SQL_PORT", "7"), ("SQL_HOST", "db")])) {} settings := by
    intro setting
    cases setting <;> rfl
  cases hfollows.unique hsettings
  have hread := hvalid (by decide +kernel)
  refine ⟨hread, (hreordered reordered ?_).trans hread, (hother _ (by decide +kernel) ?_).trans hread⟩
  · intro setting
    cases setting <;> rfl
  · intro setting hsetting
    cases setting <;> first | rfl | exact absurd rfl (hsetting _ List.mem_cons_self)

end Settings

end SqlGauge
