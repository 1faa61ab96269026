/-!
# Results of steps that may fail

What a sequence of steps gives is told step by step: with `bind_eq_ok_iff` what it takes to have a
result, with `bind_eq_error_iff` which step an error comes from. `FailsAs` says of what kind the
errors of a sequence are, and `Matches` that two sequences meet the same error or have results that are
related; both go through the steps like the sequences themselves.
-/

namespace SqlGauge

/-- Results can be compared if errors and values can. -/
instance decidableEqExcept {ε α : Type} [DecidableEq ε] [DecidableEq α] : DecidableEq (Except ε α)
  | .error a, .error b => decidable_of_iff (a = b) ⟨congrArg Except.error, Except.error.inj⟩
  | .ok a, .ok b => decidable_of_iff (a = b) ⟨congrArg Except.ok, Except.ok.inj⟩
  | .error _, .ok _ => .isFalse nofun
  | .ok _, .error _ => .isFalse nofun

section

variable {ε ε' α β : Type}

theorem bind_eq_ok_iff {first : Except ε α} {next : α → Except ε β} {result : β} :
    first >>= next = .ok result ↔ ∃ value, first = .ok value ∧ next value = .ok result := by
  cases first <;> simp [bind, Except.bind]

theorem bind_eq_error_iff {first : Except ε α} {next : α → Except ε β} {met : ε} :
    first >>= next = .error met ↔
      first = .error met ∨ ∃ value, first = .ok value ∧ next value = .error met := by
  cases first <;> simp [bind, Except.bind]

theorem map_eq_ok_iff {result : Except ε α} {convert : α → β} {value : β} :
    result.map convert = .ok value ↔ ∃ found, result = .ok found ∧ convert found = value := by
  cases result <;> simp [Except.map]

theorem mapError_ok (convert : ε → ε') (value : α) :
    (.ok value : Except ε α).mapError convert = .ok value := rfl

theorem mapError_error (convert : ε → ε') (met : ε) :
    (.error met : Except ε α).mapError convert = .error (convert met) := rfl

theorem mapError_eq_ok_iff {result : Except ε α} {convert : ε → ε'} {value : α} :
    result.mapError convert = .ok value ↔ result = .ok value := by
  cases result <;> simp [mapError_ok, mapError_error]

theorem mapError_eq_error_iff {result : Except ε α} {convert : ε → ε'} {met : ε'} :
    result.mapError convert = .error met ↔ ∃ error, result = .error error ∧ convert error = met := by
  cases result <;> simp [mapError_ok, mapError_error]

/-- What each step of a fold preserves, the whole fold preserves. -/
theorem foldlM_preserves {P : β → Prop} {step : β → α → Except ε β}
    (hstep : ∀ {state next : β} {item : α}, P state → step state item = .ok next → P next)
    {items : List α} {start final : β} (h : P start)
    (hfinal : items.foldlM step start = .ok final) : P final := by
  induction items generalizing start with
  | nil =>
    cases hfinal
    exact h
  | cons item rest ih =>
    rw [List.foldlM_cons] at hfinal
    obtain ⟨next, hnext, hfinal⟩ := bind_eq_ok_iff.mp hfinal
    exact ih (hstep h hnext) hfinal

/-- A fold whose steps all have a result has one. -/
theorem exists_foldlM {step : β → α → Except ε β}
    (hstep : ∀ state item, ∃ next, step state item = .ok next) (items : List α) (start : β) :
    ∃ final, items.foldlM step start = .ok final := by
  induction items generalizing start with
  | nil => exact ⟨start, rfl⟩
  | cons item rest ih =>
    obtain ⟨next, hnext⟩ := hstep start item
    obtain ⟨final, hfinal⟩ := ih next
    refine ⟨final, ?_⟩
    rw [List.foldlM_cons]
    exact bind_eq_ok_iff.mpr ⟨next, hnext, hfinal⟩

end

/-! ## Failing in one way -/

/-- If there is no result, then because of an error like this. -/
def FailsAs {ε α : Type} (P : ε → Prop) (result : Except ε α) : Prop :=
  ∀ error, result = .error error → P error

namespace FailsAs

variable {ε ε' α β : Type} {P : ε → Prop}

theorem ok (value : α) : FailsAs P (.ok value) := by
  intro error h
  cases h

theorem error {met : ε} (h : P met) : @FailsAs ε α P (.error met) := by
  intro error heq
  cases heq
  exact h

theorem bind {first : Except ε α} {next : α → Except ε β} (hfirst : FailsAs P first)
    (hnext : ∀ value, first = .ok value → FailsAs P (next value)) :
    FailsAs P (first >>= next) := by
  cases h : first with
  | error met =>
    rw [h] at hfirst
    exact error (hfirst met rfl)
  | ok value => exact hnext value h

theorem mapError {result : Except ε α} {convert : ε → ε'} {Q : ε' → Prop}
    (h : FailsAs (fun met => Q (convert met)) result) : FailsAs Q (result.mapError convert) := by
  cases result with
  | error met => exact error (h met rfl)
  | ok value => exact ok value

theorem map {result : Except ε α} {convert : α → β} (h : FailsAs P result) :
    FailsAs P (result.map convert) := by
  cases result with
  | error met => exact error (h met rfl)
  | ok value => exact ok (convert value)

theorem foldlM {step : β → α → Except ε β} (h : ∀ state item, FailsAs P (step state item))
    (items : List α) (start : β) : FailsAs P (items.foldlM step start) := by
  induction items generalizing start with
  | nil => exact ok start
  | cons item rest ih =>
    rw [List.foldlM_cons]
    exact bind (h start item) fun state _ => ih state

end FailsAs

/-! ## Two results -/

/-- Both are the same error, or both are values, and these are related. -/
inductive Matches {ε α β : Type} (R : α → β → Prop) : Except ε α → Except ε β → Prop where
  | error (met : ε) : Matches R (.error met) (.error met)
  | ok {a : α} {b : β} (h : R a b) : Matches R (.ok a) (.ok b)

namespace Matches

variable {ε α α' β β' : Type} {R : α → α' → Prop} {S : β → β' → Prop}

theorem refl {R : α → α → Prop} (h : ∀ value, R value value) (result : Except ε α) :
    Matches R result result := by
  cases result with
  | error met => exact error met
  | ok value => exact ok (h value)

theorem error_or_ok {result : Except ε α} {result' : Except ε α'} (h : Matches R result result') :
    (∃ met, result = .error met ∧ result' = .error met) ∨
      ∃ a a', result = .ok a ∧ result' = .ok a' ∧ R a a' := by
  cases h with
  | error met => exact .inl ⟨met, rfl, rfl⟩
  | ok h => exact .inr ⟨_, _, rfl, rfl, h⟩

theorem bind {first : Except ε α} {first' : Except ε α'} {next : α → Except ε β}
    {next' : α' → Except ε β'} (h : Matches R first first')
    (hnext : ∀ a a', R a a' → Matches S (next a) (next' a')) :
    Matches S (first >>= next) (first' >>= next') := by
  cases h with
  | error met => exact error met
  | ok h => exact hnext _ _ h

theorem foldlM {step : α → β → Except ε α} {step' : α' → β → Except ε α'} {items : List β}
    (hstep : ∀ item ∈ items, ∀ a a', R a a' → Matches R (step a item) (step' a' item))
    {start : α} {start' : α'} (h : R start start') :
    Matches R (items.foldlM step start) (items.foldlM step' start') := by
  induction items generalizing start start' with
  | nil => exact ok h
  | cons item rest ih =>
    obtain ⟨hitem, hrest⟩ := List.forall_mem_cons.mp hstep
    rw [List.foldlM_cons, List.foldlM_cons]
    exact bind (hitem _ _ h) fun a a' hnext => ih hrest hnext

end Matches

end SqlGauge
