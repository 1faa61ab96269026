import SqlGauge.Proofs.Reading.History

/-!
# Trouble with a release

A result is released after it was read, and the release may meet trouble of its own. It is called for
once, and what comes of the reading is what would have come of it without that trouble, to which the
trouble is joined: a failure keeps its cause and is told with the trouble after it, and a reading gives
way to the failure to release the result (`Cursor.Joins`, `Cursor.readOut_joins`).

Without such trouble nothing is joined to a failure, unless it came like that out of the rows
(`Cursor.bare_or_fault`).
-/

namespace SqlGauge

/-! ## Failures of their own -/

/-- No later trouble is joined to the failure, and it is about no statement. -/
structure Failure.Bare (failure : Failure) : Prop where
  released : failure.released = none
  note : failure.cause.statementNote = ""

namespace Trouble

theorem bare_whileReading_of_cause {cause : Cause} (h : cause.statementNote = "") :
    (failure { cause }).whileReading.Bare :=
  ⟨rfl, h⟩

theorem bare_whileReading_fault (met : Fault) : (fault met).whileReading.Bare :=
  ⟨rfl, rfl⟩

theorem bare_whileReading_refusal (met : Refusal) : (refusal met).whileReading.Bare :=
  ⟨rfl, rfl⟩

end Trouble

namespace Measurement

theorem Unmeasured.statementNote {unquote : Bool} {cell : Option String} {cause : Cause}
    (h : Unmeasured unquote cell cause) : cause.statementNote = "" := by
  cases h with
  | null => rfl
  | notQuoted => rfl
  | notANumber => rfl

/-- Trouble with a cell is about the cell only. -/
theorem failsAs_ofCell_bare (unquote : Bool) (cell : Option String) :
    FailsAs (fun trouble => trouble.whileReading.Bare) (ofCell unquote cell) := by
  intro trouble h
  rcases ofCell_cases unquote cell with
    ⟨value, _, hread⟩ | ⟨cause, hunmeasured, hread⟩ | ⟨text, inner, rfl, hstripped, hmisspelled⟩
  · rw [hread] at h
    cases h
  · rw [hread] at h
    cases h
    exact Trouble.bare_whileReading_of_cause hunmeasured.statementNote
  · rw [ofCell_of_stripped hstripped, read_of_misspelled hmisspelled] at h
    cases h
    exact Trouble.bare_whileReading_refusal _

end Measurement

namespace Cursor

/-- A reading fails by itself, or with the failure that the rows were broken off by. -/
theorem bare_or_fault {unquote : Bool} {cursor : Cursor} {trouble : Trouble}
    (h : (cursor.measure unquote).result = .error trouble) :
    trouble.whileReading.Bare ∨ cursor.fault = some (.failure trouble.whileReading) := by
  have hmeasure := failsAs_measure unquote cursor (Trouble.bare_whileReading_of_cause rfl)
    (Trouble.bare_whileReading_of_cause rfl) Trouble.bare_whileReading_refusal
    (Measurement.failsAs_ofCell_bare unquote) trouble h
  rcases hmeasure with hfault | hbare
  · cases trouble with
    | failure known => exact .inr hfault
    | fault met => exact .inl (Trouble.bare_whileReading_fault met)
    | refusal met => exact .inl (Trouble.bare_whileReading_refusal met)
  · exact .inl hbare

/-! ## Joining -/

/-- The trouble that a release of the cursor meets. -/
def releaseTrouble (cursor : Cursor) : Option Trouble :=
  (cursor.release.filterMap (·.fault)).getLast?

/-- The same cursor, with nothing in the way of its release. -/
def calm (cursor : Cursor) : Cursor :=
  { cursor with release := cursor.release.map fun step => ⟨step.event, none⟩ }

/-- What comes of a reading, and what comes of it when the release meets trouble. -/
inductive Joins (later : Trouble) : Except Failure Reading → Except Failure Reading → Prop where
  | failed {failure joined : Failure} (cause : joined.cause = failure.cause)
      (released : joined.released = some later.record)
      (message : joined.message = failure.cause.message ++ "; release error: " ++ later.message
        ++ failure.cause.statementNote) :
      Joins later (.error failure) (.error joined)
  | read {reading : Reading} {failure : Failure}
      (cause : failure.cause =
        .release ("failed to release result: " ++ later.message) (some later.record))
      (bare : failure.Bare) : Joins later (.ok reading) (.error failure)

theorem releaseTrouble_calm (cursor : Cursor) : cursor.calm.releaseTrouble = none := by
  have hnone : cursor.calm.release.filterMap (·.fault) = [] := by
    rw [List.filterMap_eq_nil_iff]
    intro step h
    obtain ⟨_, _, rfl⟩ := List.mem_map.mp h
    rfl
  unfold releaseTrouble
  rw [hnone]
  rfl

/-- The release has no part in the measuring. -/
theorem result_measure_calm (unquote : Bool) (cursor : Cursor) :
    (cursor.calm.measure unquote).result = (cursor.measure unquote).result :=
  Alike.measure unquote ⟨rfl, rfl, rfl, rfl⟩

theorem settle_joins (result : Except Trouble Reading) (later : Trouble) :
    Joins later (settle result none) (settle result (some later)) := by
  cases result with
  | error trouble => exact .failed rfl rfl (Failure.message_released _ _)
  | ok reading => exact .read rfl ⟨rfl, rfl⟩

/-- Reading out a result that has not been released calls for its release once, after the last row that
was pulled. Trouble with the release is joined to what would have come of the reading without it; if
there is none, that is what comes of it. A failure that comes of it without such trouble has nothing
joined to it and is about no statement, unless the rows were broken off by just this failure. -/
theorem readOut_joins (unquote : Bool) {cursor : Cursor} (unreleased : cursor.closed = false) :
    let outcome := (cursor.readOut unquote).1
    let undisturbed := (cursor.calm.readOut unquote).1.result
    (∃ numbers : List Nat,
        outcome.journal.events = numbers.map .row ++ cursor.release.map (·.event)) ∧
      (∀ later, cursor.releaseTrouble = some later → Joins later undisturbed outcome.result) ∧
      (cursor.releaseTrouble = none → outcome.result = undisturbed) ∧
      ∀ failure, undisturbed = .error failure →
        failure.Bare ∨ cursor.fault = some (.failure failure) := by
  intro outcome undisturbed
  have houtcome : outcome = _ := readOut_of_open unquote unreleased
  have hresult : outcome.result = settle (cursor.measure unquote).result cursor.releaseTrouble := by
    rw [houtcome]
    rfl
  have hundisturbed : undisturbed = settle (cursor.measure unquote).result none := by
    have hcalm := @readOut_of_open unquote cursor.calm unreleased
    rw [← result_measure_calm, ← releaseTrouble_calm cursor]
    exact congrArg Outcome.result hcalm
  refine ⟨?_, ?_, ?_, ?_⟩
  · rw [houtcome]
    exact ⟨_, rfl⟩
  · intro later hlater
    rw [hresult, hundisturbed, hlater]
    exact settle_joins _ later
  · intro hnone
    rw [hresult, hundisturbed, hnone]
  · intro failure hfailure
    rw [hundisturbed] at hfailure
    cases hmeasured : (cursor.measure unquote).result with
    | ok reading =>
      rw [hmeasured] at hfailure
      cases hfailure
    | error trouble =>
      rw [hmeasured] at hfailure
      cases hfailure
      exact bare_or_fault hmeasured

/-- The rows are broken off after the first one, and then the result cannot be released. -/
theorem readOut_joins_broken :
    let cursor : Cursor :=
      { columns := ["count"], form := .list, rows := [[.text "3"]]
        fault := some (.fault ⟨.other, "lost"⟩)
        release := [⟨.release, some (.fault ⟨.other, "gone"⟩)⟩] }
    cursor.closed = false ∧
      (∃ numbers : List Nat,
        (cursor.readOut false).1.journal.events = numbers.map .row ++ [.release]) ∧
      Joins (.fault ⟨.other, "gone"⟩) (cursor.calm.readOut false).1.result
        (cursor.readOut false).1.result ∧
      ∀ failure, (cursor.calm.readOut false).1.result = .error failure →
        failure.Bare ∨ cursor.fault = some (.failure failure) := by
  intro cursor
  obtain ⟨hevents, hjoins, _, hbare⟩ := @readOut_joins false cursor rfl
  exact ⟨rfl, hevents, hjoins _ rfl, hbare⟩

end Cursor

end SqlGauge
