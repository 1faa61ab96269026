import SqlGauge.Proofs.Cursor
import SqlGauge.Proofs.Literal.Grammar
import SqlGauge.Proofs.Reading.Number

/-!
# What a table is read as

A `Table` is a result that is read from the start: columns, rows of texts and nulls, and what breaks
the rows off after some of them. `Table.Reads` says what the reading of a table should bring, and how
many rows should be pulled for it, case by case, without saying how it is found out.

Reading a table out brings just that, unless the first cell holds a misspelled word
(`Table.readOut_reads`). Such a cell holds no number, but the reading fails as a query that could not
be read, not for the number that is missing (`Table.not_reads_dotless`).
-/

namespace SqlGauge

/-! ## Tables -/

/-- A result before anything has been asked of it. -/
structure Table where
  columns : List String
  form : RowForm := .list
  rows : List Row
  /-- After how many rows the rest cannot be read, and why. -/
  fault : Option (Nat × Trouble) := none

namespace Table

/-- The rows that can be read. -/
def seen (table : Table) : List Row :=
  match table.fault with
  | none => table.rows
  | some (count, _) => table.rows.take count

/-- What comes after these rows, if it is not their end. -/
def trouble? (table : Table) : Option Trouble :=
  table.fault.map (·.2)

/-- The cursor over a table. There may be something to call when it is released, and that may
fail. -/
def cursor (table : Table) (callback : Option (Option Trouble)) : Cursor where
  columns := table.columns
  form := table.form
  rows := table.seen.map Cell.ofRow
  fault := table.trouble?
  release := callback.toList.map (ReleaseStep.mk .release)

end Table

/-! ## The number in a cell -/

namespace Measurement

/-- The text of a cell and the text that its number is looked for in, which is what the text denotes
as a literal if quotes are to be taken off. -/
inductive Stripped : Bool → String → String → Prop where
  | plain {text : String} : Stripped false text text
  | literal {text inner : String} (denotes : Literal.Denotes text.toList inner.toList) :
      Stripped true text inner

/-- A cell and the number in it. -/
inductive Measures (unquote : Bool) : Option String → Binary64 → Prop where
  | intro {text inner : String} {value : Binary64} (stripped : Stripped unquote text inner)
      (number : Number inner.toList value) : Measures unquote (some text) value

/-- A cell without a number, and why there is none. -/
inductive Unmeasured (unquote : Bool) : Option String → Cause → Prop where
  | null : Unmeasured unquote none (.notANumber none)
  | notQuoted {text : String} {flaw : Literal.Flaw} (needed : unquote = true)
      (alien : Literal.read text = .error flaw) :
      Unmeasured unquote (some text) (.notQuoted text flaw.message)
  | notANumber {text inner : String} (stripped : Stripped unquote text inner)
      (alien : ¬ ∃ value, Number inner.toList value) :
      Unmeasured unquote (some text) (.notANumber (some inner))

theorem ofCell_of_stripped {unquote : Bool} {text inner : String}
    (h : Stripped unquote text inner) : ofCell unquote (some text) = read (some inner) := by
  cases h with
  | plain => rfl
  | literal denotes =>
    rw [ofCell, if_pos rfl, Literal.read_eq_ok_iff_denotes.mpr denotes]

/-- A cell has a number, or there is a reason why it has none, or it holds a misspelled word. -/
theorem ofCell_cases (unquote : Bool) (cell : Option String) :
    (∃ value, Measures unquote cell value ∧ ofCell unquote cell = .ok value) ∨
      (∃ cause, Unmeasured unquote cell cause ∧ ofCell unquote cell = .error (.failure { cause })) ∨
      ∃ text inner, cell = some text ∧ Stripped unquote text inner ∧ Misspelled inner.toList := by
  have hinner : ∀ {text inner : String}, Stripped unquote text inner →
      (∃ value, Measures unquote (some text) value ∧ ofCell unquote (some text) = .ok value) ∨
        (∃ cause, Unmeasured unquote (some text) cause ∧
          ofCell unquote (some text) = .error (.failure { cause })) ∨
        ∃ text' inner, some text = some text' ∧ Stripped unquote text' inner ∧
          Misspelled inner.toList := by
    intro text inner hstripped
    rw [ofCell_of_stripped hstripped]
    by_cases hnumber : ∃ value, Number inner.toList value
    · obtain ⟨value, hvalue⟩ := hnumber
      exact .inl ⟨value, .intro hstripped hvalue, read_of_number hvalue⟩
    · by_cases hspelled : Misspelled inner.toList
      · exact .inr (.inr ⟨text, inner, rfl, hstripped, hspelled⟩)
      · refine .inr (.inl ⟨_, .notANumber hstripped hnumber, ?_⟩)
        exact read_eq_notANumber_iff.mpr ⟨hnumber, hspelled⟩
  cases cell with
  | none =>
    refine .inr (.inl ⟨_, .null, ?_⟩)
    rfl
  | some text =>
    cases unquote with
    | false => exact hinner .plain
    | true =>
      cases hliteral : Literal.read text with
      | ok inner => exact hinner (.literal (Literal.read_eq_ok_iff_denotes.mp hliteral))
      | error flaw =>
        refine .inr (.inl ⟨_, .notQuoted rfl hliteral, ?_⟩)
        rw [ofCell, if_pos rfl, hliteral]

/-- A text is stripped in one way only. -/
theorem Stripped.unique {unquote : Bool} {text inner inner' : String}
    (h : Stripped unquote text inner) (h' : Stripped unquote text inner') : inner = inner' := by
  cases h with
  | plain =>
    cases h' with
    | plain => rfl
  | literal denotes =>
    cases h' with
    | literal denotes' =>
      have hread := Literal.read_eq_ok_iff_denotes.mpr denotes
      rw [Literal.read_eq_ok_iff_denotes.mpr denotes'] at hread
      exact (Except.ok.inj hread).symm

end Measurement

/-! ## The reading of a table -/

namespace Table

/-- What the reading of a table should bring, and how many rows should be pulled for it. -/
inductive Reads (unquote : Bool) (table : Table) : Except Failure Reading → Nat → Prop where
  | noColumns (bare : table.columns = []) :
      Reads unquote table (.error { cause := .noColumns Cause.noColumnsText }) 0
  | noRows (wide : table.columns ≠ []) (empty : table.seen = []) (whole : table.trouble? = none) :
      Reads unquote table (.error { cause := .noRows Cause.noRowsText table.columns }) 0
  | unreadable {trouble : Trouble} (wide : table.columns ≠ []) (empty : table.seen = [])
      (broken : table.trouble? = some trouble) :
      Reads unquote table (.error trouble.whileReading) 0
  | noCell {further : List Row} (wide : table.columns ≠ []) (first : table.seen = [] :: further) :
      Reads unquote table (.error (Trouble.refusal (.noFirstCell table.form)).whileReading) 1
  | noNumber {cell : Option String} {cells : Row} {further : List Row} {cause : Cause}
      (wide : table.columns ≠ []) (first : table.seen = (cell :: cells) :: further)
      (bad : Measurement.Unmeasured unquote cell cause) :
      Reads unquote table (.error { cause }) 1
  | broken {cell : Option String} {cells : Row} {further : List Row} {value : Binary64}
      {trouble : Trouble} (wide : table.columns ≠ [])
      (first : table.seen = (cell :: cells) :: further)
      (good : Measurement.Measures unquote cell value) (broken : table.trouble? = some trouble) :
      Reads unquote table (.error trouble.whileReading) table.seen.length
  | whole {cell : Option String} {cells : Row} {further : List Row} {value : Binary64}
      (wide : table.columns ≠ []) (first : table.seen = (cell :: cells) :: further)
      (good : Measurement.Measures unquote cell value) (whole : table.trouble? = none) :
      Reads unquote table
        (.ok
          { value
            columns := table.columns
            rowCount := table.seen.length
            advisories := (if 1 < table.columns.length then [.extraColumns] else []) ++
              (if 1 < table.seen.length then [.extraRows] else []) })
        table.seen.length

/-- The first cell holds a word, after the quotes have been taken off if they are to be, that is
misspelled. -/
def Misspells (unquote : Bool) (table : Table) (inner : String) : Prop :=
  table.columns ≠ [] ∧ ∃ text cells further, table.seen = (some text :: cells) :: further ∧
    Measurement.Stripped unquote text inner ∧ Measurement.Misspelled inner.toList

/-- A result after its release, in which there may have been trouble: that is reported by itself
only if there was none before. -/
def afterRelease (result : Except Failure Reading) : Option Trouble → Except Failure Reading
  | none => result
  | some later =>
    match result with
    | .ok _ => .error later.whileReleasing
    | .error failure => .error { failure with released := some later.record }

theorem settle_eq_afterRelease (result : Except Trouble Reading) (later : Option Trouble) :
    Cursor.settle result later = afterRelease (result.mapError Trouble.whileReading) later := by
  cases result <;> cases later <;> rfl

/-! ## Measuring a table -/

theorem ofRow_ofRow (unquote : Bool) (form : RowForm) (row : Row) :
    Measurement.ofRow unquote form (Cell.ofRow row) =
      match row with
      | [] => .error (.refusal (.noFirstCell form))
      | cell :: _ => Measurement.ofCell unquote cell := by
  unfold Measurement.ofRow
  rw [Cell.rowText_ofRow]
  cases row <;> rfl

section measured

variable (unquote : Bool) {table : Table} (callback : Option (Option Trouble))

theorem measure_bare (bare : table.columns = []) :
    ((table.cursor callback).measure unquote).result = .error Reading.noColumns ∧
      ((table.cursor callback).measure unquote).cursor.pulled = 0 := by
  rw [Cursor.measure_of_columns_eq_nil unquote bare]
  exact ⟨rfl, rfl⟩

theorem measure_empty (wide : table.columns ≠ []) (empty : table.seen = []) :
    ((table.cursor callback).measure unquote).result =
        .error (table.trouble?.getD (Reading.noRows table.columns)) ∧
      ((table.cursor callback).measure unquote).cursor.pulled = 0 :=
  Cursor.measure_of_rows_eq_nil unquote wide (congrArg (List.map Cell.ofRow) empty)

variable {unquote} {row : Row} {further : List Row}

theorem measure_first_bad {trouble : Trouble} (wide : table.columns ≠ [])
    (first : table.seen = row :: further)
    (bad : Measurement.ofRow unquote table.form (Cell.ofRow row) = .error trouble) :
    ((table.cursor callback).measure unquote).result = .error trouble ∧
      ((table.cursor callback).measure unquote).cursor.pulled = 1 :=
  Cursor.measure_bad wide (congrArg (List.map Cell.ofRow) first) bad

/-- After a first row with a number all rows are pulled, and then the fault, if there is one. -/
theorem measure_first_good {value : Binary64} (wide : table.columns ≠ [])
    (first : table.seen = row :: further)
    (good : Measurement.ofRow unquote table.form (Cell.ofRow row) = .ok value) :
    ((table.cursor callback).measure unquote).result =
        (match table.trouble? with
          | some trouble => .error trouble
          | none => .ok
            { value
              columns := table.columns
              rowCount := table.seen.length
              advisories := (if 1 < table.columns.length then [.extraColumns] else []) ++
                (if 1 < table.seen.length then [.extraRows] else []) }) ∧
      ((table.cursor callback).measure unquote).cursor.pulled = table.seen.length := by
  have hmeasured :=
    @Cursor.measure_good _ (table.cursor callback) _ _ _ wide (congrArg (List.map Cell.ofRow) first)
      good
  rw [show Cursor.drainRows (table.cursor callback).fault (further.map Cell.ofRow) = _ from
    Cursor.drainRows_ofRow table.trouble? further] at hmeasured
  obtain ⟨hresult, hpulled⟩ := hmeasured
  rw [hresult, hpulled, first, List.length_cons]
  refine ⟨?_, Nat.add_comm 1 _⟩
  have hmany : (1 < further.length + 1) = (further ≠ []) := by
    rw [Nat.lt_add_left_iff_pos, List.length_pos_iff]
  cases htrouble : table.trouble? with
  | some trouble => rfl
  | none =>
    simp only [Reading.advise, hmany, ite_not]
    rfl

end measured

/-- A misspelled word in the first cell is refused by the conversion. -/
theorem measure_misspelled (callback : Option (Option Trouble)) {unquote : Bool} {table : Table}
    {inner : String} (h : table.Misspells unquote inner) :
    ((table.cursor callback).measure unquote).result = .error (.refusal (.notAFloat inner)) ∧
      ((table.cursor callback).measure unquote).cursor.pulled = 1 := by
  obtain ⟨wide, text, cells, further, first, hstripped, hmisspelled⟩ := h
  refine measure_first_bad callback wide first ?_
  rw [ofRow_ofRow]
  show Measurement.ofCell unquote (some text) = _
  rw [Measurement.ofCell_of_stripped hstripped]
  exact Measurement.read_of_misspelled hmisspelled

/-- Without one, measuring brings what it should. -/
theorem measure_reads (callback : Option (Option Trouble)) {unquote : Bool} {table : Table}
    (h : ¬ ∃ inner, table.Misspells unquote inner) :
    Reads unquote table
      (((table.cursor callback).measure unquote).result.mapError Trouble.whileReading)
      ((table.cursor callback).measure unquote).cursor.pulled := by
  by_cases hcolumns : table.columns = []
  · obtain ⟨hresult, hpulled⟩ := measure_bare unquote callback hcolumns
    rw [hresult, hpulled]
    exact .noColumns hcolumns
  · cases hseen : table.seen with
    | nil =>
      obtain ⟨hresult, hpulled⟩ := measure_empty unquote callback hcolumns hseen
      rw [hresult, hpulled]
      cases htrouble : table.trouble? with
      | none => exact .noRows hcolumns hseen htrouble
      | some trouble => exact .unreadable hcolumns hseen htrouble
    | cons first further =>
      have hrow := ofRow_ofRow unquote table.form first
      cases first with
      | nil =>
        obtain ⟨hresult, hpulled⟩ := measure_first_bad callback hcolumns hseen hrow
        rw [hresult, hpulled]
        exact .noCell hcolumns hseen
      | cons cell cells =>
        rcases Measurement.ofCell_cases unquote cell with
          ⟨value, hmeasures, hread⟩ | ⟨cause, hunmeasured, hread⟩ | ⟨text, inner, rfl, hword⟩
        · obtain ⟨hresult, hpulled⟩ :=
            measure_first_good callback hcolumns hseen (hrow.trans hread)
          rw [hresult, hpulled]
          cases htrouble : table.trouble? with
          | none => exact .whole hcolumns hseen hmeasures htrouble
          | some trouble => exact .broken hcolumns hseen hmeasures htrouble
        · obtain ⟨hresult, hpulled⟩ := measure_first_bad callback hcolumns hseen (hrow.trans hread)
          rw [hresult, hpulled]
          exact .noNumber hcolumns hseen hunmeasured
        · exact absurd ⟨inner, hcolumns, text, cells, further, hseen, hword⟩ h

/-- The conversion's refusal is not what the reading of a table with a misspelled word should
bring: the word is no number, and no number is a failure of its own. -/
theorem not_reads_of_misspells {unquote : Bool} {table : Table} {inner : String} {count : Nat}
    (h : table.Misspells unquote inner) :
    ¬ Reads unquote table (.error (Trouble.refusal (.notAFloat inner)).whileReading) count := by
  obtain ⟨wide, text, cells, further, hseen, hstripped, hmisspelled⟩ := h
  intro hreads
  have hgood : ∀ value, ¬ Measurement.Measures unquote (some text) value := by
    rintro value ⟨hother, hnumber⟩
    rw [hother.unique hstripped] at hnumber
    have hread := Measurement.read_of_number hnumber
    rw [Measurement.read_of_misspelled hmisspelled] at hread
    cases hread
  generalize hresult : Except.error (Trouble.refusal (.notAFloat inner)).whileReading = result
    at hreads
  cases hreads with
  | noColumns bare => exact wide bare
  | noRows _ empty _ => exact absurd (hseen.symm.trans empty) (List.cons_ne_nil _ _)
  | unreadable _ empty _ => exact absurd (hseen.symm.trans empty) (List.cons_ne_nil _ _)
  | noCell _ first => cases hseen.symm.trans first
  | noNumber _ first bad =>
    cases hseen.symm.trans first
    cases bad <;> cases hresult
  | broken _ first good _ =>
    cases hseen.symm.trans first
    exact hgood _ good
  | whole _ first good _ =>
    cases hseen.symm.trans first
    exact hgood _ good

/-! ## Reading a table out -/

/-- The trouble of a release is that of the callback. -/
theorem trouble_release (callback : Option (Option Trouble)) :
    ((callback.toList.map (ReleaseStep.mk .release)).filterMap (·.fault)).getLast? =
      callback.join := by
  rcases callback with _ | _ | trouble
  · rfl
  · rfl
  · rfl

theorem readOut_cursor (unquote : Bool) (table : Table) (callback : Option (Option Trouble)) :
    let measured := (table.cursor callback).measure unquote
    let outcome := ((table.cursor callback).readOut unquote).1
    outcome.result =
        afterRelease (measured.result.mapError Trouble.whileReading) callback.join ∧
      outcome.journal.events =
        (List.range' 1 measured.cursor.pulled).map .row ++ callback.toList.map fun _ => .release := by
  intro measured outcome
  have houtcome : outcome = _ := Cursor.readOut_of_open unquote rfl
  rw [houtcome]
  constructor
  · show Cursor.settle measured.result _ = _
    rw [settle_eq_afterRelease]
    exact congrArg (afterRelease _) (trouble_release callback)
  · show Cursor.pullsTo _ _ ++ (callback.toList.map (ReleaseStep.mk .release)).map _ = _
    rw [List.map_map]
    rfl

/-- Reading a table out pulls its rows from the first one on, then releases it. What comes of it is
what the reading should bring just if the first cell does not hold a misspelled word; if it does, the
rows count as unreadable after this row. Trouble met while releasing comes after all that. -/
theorem readOut_reads (unquote : Bool) (table : Table) (callback : Option (Option Trouble)) :
    let outcome := ((table.cursor callback).readOut unquote).1
    ∃ result count,
      outcome.result = afterRelease result callback.join ∧
        outcome.journal.events =
          (List.range' 1 count).map .row ++ callback.toList.map (fun _ => .release) ∧
        (Reads unquote table result count ↔ ¬ ∃ inner, table.Misspells unquote inner) ∧
        ∀ inner, table.Misspells unquote inner →
          result = .error (Trouble.refusal (.notAFloat inner)).whileReading ∧ count = 1 := by
  intro outcome
  obtain ⟨hresult, hevents⟩ := readOut_cursor unquote table callback
  refine ⟨_, _, hresult, hevents, ?_, ?_⟩
  · constructor
    · rintro hreads ⟨inner, hmisspells⟩
      rw [(measure_misspelled callback hmisspells).1] at hreads
      exact not_reads_of_misspells hmisspells hreads
    · exact measure_reads callback
  · intro inner hmisspells
    obtain ⟨hmeasured, hpulled⟩ := measure_misspelled callback hmisspells
    rw [hmeasured]
    exact ⟨rfl, hpulled⟩

/-- A result whose only cell is the word for infinity with a dotless `i` for its first letter. -/
def dotless : Table := { columns := ["count"], rows := [[some "\u0131nf"]] }

theorem misspells_dotless : dotless.Misspells false "\u0131nf" := by
  refine ⟨by decide, "\u0131nf", [], [], rfl, .plain, ?_⟩
  exact @Measurement.Misspelled.intro [] ['\u0131', 'n', 'f'] false (.infinite false) .absent .short
    ⟨'\u0131', by decide, by decide⟩

/-- The reading of such a result does not bring what it should. -/
theorem not_reads_dotless :
    ¬ ∃ count, Reads false dotless ((dotless.cursor none).readOut false).1.result count := by
  rintro ⟨count, hreads⟩
  rw [(readOut_cursor false dotless none).1, (measure_misspelled none misspells_dotless).1] at hreads
  exact not_reads_of_misspells misspells_dotless hreads

end Table

end SqlGauge
