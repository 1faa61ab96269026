import SqlGauge.Proofs.Result
import SqlGauge.Reading

/-!
# What reading a cursor brings

Rows are pulled until the cursor breaks off or ends. A row breaks it off just if one of its integers
has too many digits to be written (`Cell.exists_rowText_iff`), so what draining brings is settled by
the first such row, and without one by the fault after the last row (`Cursor.drainRows_writable`,
`Cursor.drainRows_unwritable`).

`Measurement.ofRow` is the number in a row, and measuring follows it: a first row without a number is
the only one that is pulled (`Cursor.measure_bad`), and after a first row with one the rest is
drained (`Cursor.measure_good`). However far a cursor was read, what is to be released stays the
same (`Cursor.Advanced`).
-/

namespace SqlGauge

/-! ## Rows with texts -/

namespace Cell

/-- No integer of the row has too many digits to be written. -/
def Writable (row : List Cell) : Prop :=
  ∀ number, integer number ∈ row →
    (Nat.toDigits 10 number.natAbs).length ≤ Refusal.digitLimit

theorem writable_cons_iff {cell : Cell} {rest : List Cell} :
    Writable (cell :: rest) ↔ Writable [cell] ∧ Writable rest := by
  simp only [Writable, List.mem_cons, List.not_mem_nil, or_false]
  constructor
  · intro h
    exact ⟨fun number hcell => h number (.inl hcell), fun number hrest => h number (.inr hrest)⟩
  · rintro ⟨hcell, hrest⟩ number (h | h)
    · exact hcell number h
    · exact hrest number h

theorem exists_text?_iff {cell : Cell} : (∃ text, cell.text? = .ok text) ↔ Writable [cell] := by
  cases cell with
  | integer number =>
    simp only [Writable, List.mem_singleton, integer.injEq, forall_eq, text?, integerText]
    split
    · next h => exact iff_of_true ⟨_, rfl⟩ h
    · next h => exact iff_of_false (by rintro ⟨_, h⟩; cases h) h
  | truth value => cases value <;> simp [Writable, text?]
  | _ => simp [Writable, text?]

theorem rowText_cons_eq_ok_iff {cell : Cell} {rest : List Cell} {texts : Row} :
    rowText (cell :: rest) = .ok texts ↔
      ∃ first others, texts = first :: others ∧ cell.text? = .ok first ∧
        rowText rest = .ok others := by
  rw [rowText]
  cases cell.text? with
  | error refusal => simp [bind, Except.bind]
  | ok first =>
    cases rowText rest with
    | error refusal => simp [bind, Except.bind]
    | ok others => simp [bind, Except.bind, pure, Except.pure, eq_comm]

/-- A row has texts just if it can be written. -/
theorem exists_rowText_iff {row : List Cell} :
    (∃ texts, rowText row = .ok texts) ↔ Writable row := by
  induction row with
  | nil => exact iff_of_true ⟨[], rfl⟩ (fun _ h => absurd h List.not_mem_nil)
  | cons cell rest ih =>
    rw [writable_cons_iff, ← exists_text?_iff, ← ih]
    constructor
    · rintro ⟨texts, h⟩
      obtain ⟨first, others, _, hcell, hrest⟩ := rowText_cons_eq_ok_iff.mp h
      exact ⟨⟨first, hcell⟩, ⟨others, hrest⟩⟩
    · rintro ⟨⟨first, hcell⟩, others, hrest⟩
      exact ⟨first :: others, rowText_cons_eq_ok_iff.mpr ⟨first, others, rfl, hcell, hrest⟩⟩

/-- Either all rows can be written, or there is a first one that cannot. -/
theorem writable_or_first_unwritable (rows : List (List Cell)) :
    (∀ row ∈ rows, Writable row) ∨
      ∃ before row after, rows = before ++ row :: after ∧
        (∀ earlier ∈ before, Writable earlier) ∧ ¬ Writable row := by
  induction rows with
  | nil => exact .inl (fun _ h => absurd h List.not_mem_nil)
  | cons row rest ih =>
    by_cases hrow : Writable row
    · rcases ih with hrest | ⟨before, bad, after, rfl, hbefore, hbad⟩
      · exact .inl (List.forall_mem_cons.mpr ⟨hrow, hrest⟩)
      · exact .inr ⟨row :: before, bad, after, rfl, List.forall_mem_cons.mpr ⟨hrow, hbefore⟩, hbad⟩
    · exact .inr ⟨[], row, rest, rfl, fun _ h => absurd h List.not_mem_nil, hrow⟩

end Cell

/-! ## The number in a row -/

/-- The number in the first cell of a row that is handed over in some form. -/
def Measurement.ofRow (unquote : Bool) (form : RowForm) (row : List Cell) :
    Except Trouble Binary64 :=
  match Cell.rowText row with
  | .error refusal => .error (.refusal refusal)
  | .ok [] => .error (.refusal (.noFirstCell form))
  | .ok (text :: _) => Measurement.ofCell unquote text

/-- A row has a number just if it can be written and the text of its first cell is one. -/
theorem Measurement.ofRow_eq_ok_iff {unquote : Bool} {form : RowForm} {row : List Cell}
    {value : Binary64} :
    Measurement.ofRow unquote form row = .ok value ↔
      Cell.Writable row ∧ ∃ cell rest text, row = cell :: rest ∧ cell.text? = .ok text ∧
        Measurement.ofCell unquote text = .ok value := by
  rw [← Cell.exists_rowText_iff]
  cases row with
  | nil => simp [Measurement.ofRow, Cell.rowText]
  | cons cell rest =>
    unfold Measurement.ofRow
    cases hrow : Cell.rowText (cell :: rest) with
    | error refusal => simp
    | ok texts =>
      obtain ⟨first, others, rfl, hcell, _⟩ := Cell.rowText_cons_eq_ok_iff.mp hrow
      simp only [List.cons.injEq, Except.ok.injEq, exists_eq', true_and]
      constructor
      · intro h
        exact ⟨cell, rest, first, ⟨rfl, rfl⟩, hcell, h⟩
      · rintro ⟨_, _, text, ⟨rfl, rfl⟩, htext, h⟩
        rw [hcell] at htext
        cases htext
        exact h

/-! ## Draining -/

namespace Cursor

/-- Without a row that cannot be written, draining pulls all rows and ends as the rows do. -/
theorem drainRows_writable (fault : Option Trouble) {rows : List (List Cell)}
    (h : ∀ row ∈ rows, Cell.Writable row) :
    (drainRows fault rows).trouble = fault ∧ (drainRows fault rows).pulled = rows.length := by
  -- the fault is handed down to the end, so nothing but the count changes from row to row
  induction rows with
  | nil => exact ⟨rfl, rfl⟩
  | cons row rest ih =>
    obtain ⟨texts, hrow⟩ := Cell.exists_rowText_iff.mpr (h row List.mem_cons_self)
    obtain ⟨htrouble, hpulled⟩ := ih (fun other hother => h other (List.mem_cons_of_mem _ hother))
    simp only [drainRows, hrow, List.length_cons]
    exact ⟨htrouble, congrArg (· + 1) hpulled⟩

/-- The first row that cannot be written is the last one that draining pulls. -/
theorem drainRows_unwritable (fault : Option Trouble) {before after : List (List Cell)}
    {row : List Cell} (hbefore : ∀ earlier ∈ before, Cell.Writable earlier)
    (hrow : ¬ Cell.Writable row) :
    (∃ refusal, (drainRows fault (before ++ row :: after)).trouble = some (.refusal refusal)) ∧
      (drainRows fault (before ++ row :: after)).pulled = before.length + 1 := by
  induction before with
  | nil =>
    simp only [List.nil_append, drainRows]
    cases htexts : Cell.rowText row with
    | ok texts => exact absurd (Cell.exists_rowText_iff.mp ⟨texts, htexts⟩) hrow
    | error refusal => exact ⟨⟨refusal, rfl⟩, rfl⟩
  | cons earlier before ih =>
    obtain ⟨hearlier, hothers⟩ := List.forall_mem_cons.mp hbefore
    obtain ⟨texts, htexts⟩ := Cell.exists_rowText_iff.mpr hearlier
    obtain ⟨htrouble, hpulled⟩ := ih hothers
    simp only [List.cons_append, drainRows, htexts, List.length_cons]
    exact ⟨htrouble, congrArg (· + 1) hpulled⟩

/-- Draining meets no trouble just if all rows can be written and no fault comes after them. -/
theorem trouble_drainRows_eq_none_iff {fault : Option Trouble} {rows : List (List Cell)} :
    (drainRows fault rows).trouble = none ↔
      fault = none ∧ ∀ row ∈ rows, Cell.Writable row := by
  rcases Cell.writable_or_first_unwritable rows with h | ⟨before, row, after, rfl, hbefore, hrow⟩
  · rw [(drainRows_writable fault h).1]
    exact ⟨fun hfault => ⟨hfault, h⟩, And.left⟩
  · obtain ⟨⟨refusal, htrouble⟩, _⟩ := @drainRows_unwritable fault before after row hbefore hrow
    rw [htrouble]
    exact iff_of_false (Option.some_ne_none _) fun h =>
      hrow (h.2 row (List.mem_append_right before List.mem_cons_self))

/-- What breaks rows off is the fault after them or a row that cannot be written. -/
theorem of_trouble_drainRows {fault : Option Trouble} {rows : List (List Cell)} {trouble : Trouble}
    (h : (drainRows fault rows).trouble = some trouble) :
    fault = some trouble ∨ ∃ refusal, trouble = .refusal refusal := by
  rcases Cell.writable_or_first_unwritable rows with hrows | ⟨before, row, after, rfl, hbefore, hrow⟩
  · rw [(drainRows_writable fault hrows).1] at h
    exact .inl h
  · obtain ⟨⟨refusal, htrouble⟩, _⟩ := @drainRows_unwritable fault before after row hbefore hrow
    rw [htrouble] at h
    cases h
    exact .inr ⟨refusal, rfl⟩

/-! ## How far a cursor was read -/

/-- The later cursor is the earlier one after some reading: of what is to be released, and of
whether it has been, nothing has changed. -/
structure Advanced (before after : Cursor) : Prop where
  columns : after.columns = before.columns
  release : after.release = before.release
  closed : after.closed = before.closed

theorem Advanced.refl (cursor : Cursor) : Advanced cursor cursor :=
  ⟨rfl, rfl, rfl⟩

theorem Advanced.trans {first second third : Cursor} (h : Advanced first second)
    (h' : Advanced second third) : Advanced first third :=
  ⟨h'.columns.trans h.columns, h'.release.trans h.release, h'.closed.trans h.closed⟩

theorem advanced_pull (cursor : Cursor) : Advanced cursor cursor.pull.2 := by
  unfold pull
  split
  · split <;> exact ⟨rfl, rfl, rfl⟩
  · split <;> exact ⟨rfl, rfl, rfl⟩

theorem advanced_drain (cursor : Cursor) : Advanced cursor cursor.drain.2 :=
  ⟨rfl, rfl, rfl⟩

/-- The cursor after some pulls. -/
def pulls : Nat → Cursor → Cursor
  | 0, cursor => cursor
  | count + 1, cursor => pulls count cursor.pull.2

theorem advanced_pulls (count : Nat) (cursor : Cursor) : Advanced cursor (pulls count cursor) := by
  induction count generalizing cursor with
  | zero => exact .refl cursor
  | succ count ih => exact (advanced_pull cursor).trans (ih cursor.pull.2)

/-- Releasing does the same however far the cursor was read. -/
theorem Advanced.close_eq {before after : Cursor} (h : Advanced before after) :
    after.close.1 = before.close.1 := by
  unfold close
  rw [h.closed, h.release]
  split <;> rfl

/-! ## Measuring -/

theorem measure_of_columns_eq_nil (unquote : Bool) {cursor : Cursor} (h : cursor.columns = []) :
    cursor.measure unquote = ⟨.error Reading.noColumns, [], cursor⟩ := by
  simp only [measure, h, if_true]

/-- Without rows, measuring meets the fault of the cursor or finds that there are none. -/
theorem measure_of_rows_eq_nil (unquote : Bool) {cursor : Cursor} (hcolumns : cursor.columns ≠ [])
    (hrows : cursor.rows = []) :
    (cursor.measure unquote).result =
        .error (cursor.fault.getD (Reading.noRows cursor.columns)) ∧
      (cursor.measure unquote).cursor.pulled = cursor.pulled := by
  simp only [measure, if_neg hcolumns, pull, hrows]
  cases cursor.fault with
  | none => exact ⟨rfl, rfl⟩
  | some trouble => exact ⟨rfl, rfl⟩

/-- A first row without a number is the only one that is pulled. -/
theorem measure_bad {unquote : Bool} {cursor : Cursor} {first : List Cell}
    {further : List (List Cell)} {trouble : Trouble} (hcolumns : cursor.columns ≠ [])
    (hrows : cursor.rows = first :: further)
    (hbad : Measurement.ofRow unquote cursor.form first = .error trouble) :
    (cursor.measure unquote).result = .error trouble ∧
      (cursor.measure unquote).cursor.pulled = cursor.pulled + 1 := by
  unfold Measurement.ofRow at hbad
  simp only [measure, if_neg hcolumns, pull, hrows]
  cases htexts : Cell.rowText first with
  | error refusal =>
    rw [htexts] at hbad
    cases hbad
    exact ⟨rfl, rfl⟩
  | ok texts =>
    rw [htexts] at hbad
    cases texts with
    | nil => cases hbad; exact ⟨rfl, rfl⟩
    | cons text others =>
      simp only at hbad
      simp only [hbad, and_self]

/-- After a first row with a number the others are drained, and what they bring decides. -/
theorem measure_good {unquote : Bool} {cursor : Cursor} {first : List Cell}
    {further : List (List Cell)} {value : Binary64} (hcolumns : cursor.columns ≠ [])
    (hrows : cursor.rows = first :: further)
    (hgood : Measurement.ofRow unquote cursor.form first = .ok value) :
    (cursor.measure unquote).result =
        (match (drainRows cursor.fault further).trouble with
          | some trouble => .error trouble
          | none => .ok
            { value
              columns := cursor.columns
              advisories := Reading.advise cursor.columns (drainRows cursor.fault further).rows
              rowCount := (drainRows cursor.fault further).rows.length + 1 }) ∧
      (cursor.measure unquote).cursor.pulled =
        cursor.pulled + 1 + (drainRows cursor.fault further).pulled := by
  unfold Measurement.ofRow at hgood
  simp only [measure, if_neg hcolumns, pull, hrows]
  cases htexts : Cell.rowText first with
  | error refusal => rw [htexts] at hgood; cases hgood
  | ok texts =>
    rw [htexts] at hgood
    cases texts with
    | nil => cases hgood
    | cons text others =>
      simp only at hgood
      simp only [hgood, drain]
      cases (drainRows cursor.fault further).trouble with
      | none => exact ⟨rfl, rfl⟩
      | some trouble => exact ⟨rfl, rfl⟩

/-- Trouble met while measuring is the fault of the cursor unless it has what a missing measurement, the
refusal of a value and trouble with the first cell have in common. -/
theorem failsAs_measure {P : Trouble → Prop} (unquote : Bool) (cursor : Cursor)
    (hcolumns : P Reading.noColumns) (hrows : P (Reading.noRows cursor.columns))
    (hrefusal : ∀ refusal, P (.refusal refusal))
    (hcell : ∀ text, FailsAs P (Measurement.ofCell unquote text)) :
    FailsAs (fun trouble => cursor.fault = some trouble ∨ P trouble)
      (cursor.measure unquote).result := by
  intro trouble h
  by_cases hwide : cursor.columns = []
  · rw [measure_of_columns_eq_nil unquote hwide] at h
    cases h
    exact .inr hcolumns
  cases hfirst : cursor.rows with
  | nil =>
    rw [(measure_of_rows_eq_nil unquote hwide hfirst).1] at h
    cases hfault : cursor.fault with
    | none =>
      rw [hfault] at h
      cases h
      exact .inr hrows
    | some met =>
      rw [hfault] at h
      cases h
      exact .inl rfl
  | cons first further =>
    cases hnumber : Measurement.ofRow unquote cursor.form first with
    | error met =>
      rw [(measure_bad hwide hfirst hnumber).1] at h
      cases h
      unfold Measurement.ofRow at hnumber
      split at hnumber
      · cases hnumber
        exact .inr (hrefusal _)
      · cases hnumber
        exact .inr (hrefusal _)
      · exact .inr (hcell _ _ hnumber)
    | ok value =>
      rw [(measure_good hwide hfirst hnumber).1] at h
      cases hdrained : (drainRows cursor.fault further).trouble with
      | none =>
        rw [hdrained] at h
        cases h
      | some met =>
        rw [hdrained] at h
        cases h
        rcases of_trouble_drainRows hdrained with hfault | ⟨refusal, rfl⟩
        · exact .inl hfault
        · exact .inr (hrefusal refusal)

/-- Measuring succeeds just if there are columns, a first row with a number, and nothing that breaks
the cursor off. -/
theorem exists_measure_eq_ok_iff {unquote : Bool} {cursor : Cursor} {value : Binary64} :
    (∃ reading, (cursor.measure unquote).result = .ok reading ∧ reading.value = value) ↔
      cursor.columns ≠ [] ∧ cursor.fault = none ∧ (∀ row ∈ cursor.rows, Cell.Writable row) ∧
        ∃ first further, cursor.rows = first :: further ∧
          Measurement.ofRow unquote cursor.form first = .ok value := by
  by_cases hcolumns : cursor.columns = []
  · simp [measure_of_columns_eq_nil unquote hcolumns, hcolumns]
  cases hrows : cursor.rows with
  | nil => simp [measure_of_rows_eq_nil unquote hcolumns hrows]
  | cons first further =>
    cases hfirst : Measurement.ofRow unquote cursor.form first with
    | error trouble => simp [measure_bad hcolumns hrows hfirst, hfirst]
    | ok number =>
      -- the number is known, and what draining the rest brings decides whether it is reported
      rw [(measure_good hcolumns hrows hfirst).1]
      have hwritable := (Measurement.ofRow_eq_ok_iff.mp hfirst).1
      have hdrained := @trouble_drainRows_eq_none_iff cursor.fault further
      cases htrouble : (drainRows cursor.fault further).trouble with
      | some trouble =>
        rw [htrouble] at hdrained
        refine iff_of_false (by simp) ?_
        rintro ⟨_, hfault, hall, _⟩
        exact absurd (hdrained.mpr ⟨hfault, (List.forall_mem_cons.mp hall).2⟩)
          (Option.some_ne_none _)
      | none =>
        obtain ⟨hfault, hall⟩ := hdrained.mp htrouble
        constructor
        · rintro ⟨reading, hreading, rfl⟩
          cases hreading
          exact ⟨hcolumns, hfault, List.forall_mem_cons.mpr ⟨hwritable, hall⟩, first, further,
            rfl, hfirst⟩
        · rintro ⟨_, _, _, first', further', hcons, hvalue⟩
          cases hcons
          rw [hfirst] at hvalue
          cases hvalue
          exact ⟨_, rfl, rfl⟩

theorem advanced_measure (unquote : Bool) (cursor : Cursor) :
    Advanced cursor (cursor.measure unquote).cursor := by
  have hpull := advanced_pull cursor
  unfold measure
  -- every way out leaves the cursor after one pull, but for the last one, which drains it as well
  by_cases hcolumns : cursor.columns = []
  · simp only [if_pos hcolumns]
    exact .refl cursor
  · simp only [if_neg hcolumns]
    split
    · next h => rw [h] at hpull; exact hpull
    · next h => rw [h] at hpull; exact hpull
    · next h => rw [h] at hpull; exact hpull
    · next next' h =>
      rw [h] at hpull
      split
      · exact hpull
      · split <;> exact hpull.trans (advanced_drain _)

theorem settle_eq_ok_iff {result : Except Trouble Reading} {released : Option Trouble}
    {reading : Reading} :
    settle result released = .ok reading ↔ result = .ok reading ∧ released = none := by
  cases result <;> cases released <;> simp [settle]

/-- Reading out a cursor that has not been released: the rows are pulled first, and then every step
of the release is taken. -/
theorem readOut_of_open (unquote : Bool) {cursor : Cursor} (h : cursor.closed = false) :
    (cursor.readOut unquote).1 =
      ⟨settle (cursor.measure unquote).result (cursor.release.filterMap (·.fault)).getLast?,
        ⟨cursor.pullsTo (cursor.measure unquote).cursor ++ cursor.release.map (·.event),
          (cursor.measure unquote).lines⟩⟩ := by
  have hclose := (advanced_measure unquote cursor).close_eq
  rw [show cursor.close.1 = ⟨(cursor.release.filterMap (·.fault)).getLast?,
    cursor.release.map (·.event)⟩ by simp only [close, h, Bool.false_eq_true, if_false]] at hclose
  simp only [readOut, hclose]

end Cursor

end SqlGauge
