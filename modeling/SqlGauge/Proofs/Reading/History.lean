import SqlGauge.Proofs.Reading.Table

/-!
# What a result goes through

A result may be asked for a row, for all rows that are left, for its release, for its description,
and for a reading, in any order and as often as one likes. `Cursor.perform` is one such operation and
`Cursor.history` a run of them.

Whatever has been asked of it, the cursor over a table is where `Table.cursorAt` says: so many rows
have been taken, the end of the rows has been met or not, and the cursor is closed or not. One
operation takes the next rows, may meet the end and may close (`Table.step_cursorAt`); a run does the
same with all of its operations (`Table.run_cursorAt`). So the callback of a release is called once at
the most, each row is handed over once at the most, and what is answered depends on the rows that are
left only (`Table.history_cursor`).
-/

namespace SqlGauge

/-! ## Operations -/

/-- What may be asked of a result. -/
inductive Operation where
  | next
  | rest
  | close
  | describe
  | reduce (unquote : Bool)
deriving DecidableEq

/-- Whether the result is to be released. -/
def Operation.closes : Operation → Bool
  | close => true
  | reduce _ => true
  | _ => false

/-- What an operation answers. -/
inductive Answer where
  | pulled (pull : Cursor.Pull)
  | drained (drained : Cursor.Drained)
  | released (trouble : Option Trouble)
  | described (text : String)
  | read (result : Except Failure Reading)

/-- One operation of a run: its answer, the rows it took, and the events. -/
structure Step where
  answer : Answer
  rows : List (List Cell)
  events : List Event

namespace Cursor

/-- The rows that were taken between one state of a cursor and a later one. -/
def takenTo (before after : Cursor) : List (List Cell) :=
  before.rows.take (after.pulled - before.pulled)

/-- Performs an operation. -/
def perform (cursor : Cursor) : Operation → Step × Cursor
  | .next =>
    let (pull, after) := cursor.pull
    (⟨.pulled pull, cursor.takenTo after, cursor.pullsTo after⟩, after)
  | .rest =>
    let (drained, after) := cursor.drain
    (⟨.drained drained, cursor.takenTo after, cursor.pullsTo after⟩, after)
  | .close =>
    let (released, after) := cursor.close
    (⟨.released released.trouble, cursor.takenTo after, released.events⟩, after)
  | .describe => (⟨.described cursor.description, [], []⟩, cursor)
  | .reduce unquote =>
    let (outcome, after) := cursor.readOut unquote
    (⟨.read outcome.result, cursor.takenTo after, outcome.journal.events⟩, after)

/-- Performs operations one after another. -/
def history (cursor : Cursor) : List Operation → List Step × Cursor
  | [] => ([], cursor)
  | operation :: later =>
    let (step, next) := cursor.perform operation
    let (steps, last) := next.history later
    (step :: steps, last)

/-- The operation asks for a row when there is none left, so that it meets the end of the rows or what
broke them off. A reading does so if there is a number in the first row, or no row at all. -/
def Exhausts (cursor : Cursor) : Operation → Prop
  | .next => cursor.rows = []
  | .rest => True
  | .reduce unquote => cursor.columns ≠ [] ∧
      ∀ row ∈ cursor.rows.head?, ∃ value, Measurement.ofRow unquote cursor.form row = .ok value
  | _ => False

/-! ## Cursors that are alike -/

/-- The cursors will hand over the same rows and meet the same trouble. -/
structure Alike (cursor other : Cursor) : Prop where
  columns : cursor.columns = other.columns
  form : cursor.form = other.form
  rows : cursor.rows = other.rows
  fault : cursor.fault = other.fault

theorem Alike.pull {cursor other : Cursor} (h : Alike cursor other) :
    cursor.pull.1 = other.pull.1 := by
  unfold Cursor.pull
  rw [h.rows, h.fault]
  cases other.rows with
  | nil => cases other.fault <;> rfl
  | cons row rest =>
    simp only
    cases Cell.rowText row <;> rfl

theorem Alike.drain {cursor other : Cursor} (h : Alike cursor other) :
    cursor.drain.1 = other.drain.1 := by
  unfold Cursor.drain
  rw [h.rows, h.fault]

theorem Alike.measure (unquote : Bool) {cursor other : Cursor} (h : Alike cursor other) :
    (cursor.measure unquote).result = (other.measure unquote).result := by
  obtain ⟨columns, form, rows, fault, _, _, _⟩ := cursor
  obtain ⟨columns', form', rows', fault', _, _, _⟩ := other
  obtain ⟨rfl, rfl, rfl, rfl⟩ := h
  unfold Cursor.measure Cursor.pull
  by_cases hcolumns : columns = []
  · simp only [if_pos hcolumns]
  · simp only [if_neg hcolumns]
    cases rows with
    | nil => cases fault <;> rfl
    | cons row rest =>
      simp only
      cases Cell.rowText row with
      | error refusal => rfl
      | ok texts =>
        cases texts with
        | nil => rfl
        | cons text others =>
          simp only
          cases Measurement.ofCell unquote text with
          | error trouble => rfl
          | ok value =>
            simp only [Cursor.drain]
            cases (drainRows fault rest).trouble <;> rfl

theorem result_readOut (unquote : Bool) (cursor : Cursor) :
    (cursor.readOut unquote).1.result =
      settle (cursor.measure unquote).result cursor.close.1.trouble := by
  rw [← (advanced_measure unquote cursor).close_eq]
  rfl

end Cursor

/-! ## Where a cursor is -/

/-- How far a table has been read, and whether it has been released. The rows have ended once their
end, or what breaks them off, has been met, and that comes after the last row. -/
structure Progress (table : Table) where
  taken : Nat
  ended : Bool
  closed : Bool
  within : taken ≤ table.seen.length
  last : ended = true → taken = table.seen.length

namespace Progress

variable {table : Table}

/-- Nothing has been asked yet. -/
def start (table : Table) : Progress table :=
  ⟨0, false, false, Nat.zero_le _, fun h => nomatch h⟩

/-- One more row has been taken. -/
def forward (p : Progress table) (h : p.taken < table.seen.length) : Progress table :=
  ⟨p.taken + 1, p.ended, p.closed, h, fun hended => absurd (p.last hended) (Nat.ne_of_lt h)⟩

/-- The rows have been taken to their end. -/
def finish (p : Progress table) : Progress table :=
  ⟨table.seen.length, true, p.closed, Nat.le_refl _, fun _ => rfl⟩

/-- The result has been released. -/
def release (p : Progress table) : Progress table :=
  { p with closed := true }

/-- The rows that are left. -/
def left (p : Progress table) : List Row :=
  table.seen.drop p.taken

/-- What comes after these rows, if it is not their end. -/
def ahead? (p : Progress table) : Option Trouble :=
  if p.ended then none else table.trouble?

/-- What is left, as a table of its own. -/
def rest (p : Progress table) : Table where
  columns := table.columns
  form := table.form
  rows := p.left
  fault := p.ahead?.map fun trouble => (p.left.length, trouble)

theorem seen_rest (p : Progress table) : p.rest.seen = p.left := by
  unfold Table.seen rest
  cases p.ahead? with
  | none => rfl
  | some trouble => exact List.take_length

theorem trouble?_rest (p : Progress table) : p.rest.trouble? = p.ahead? := by
  unfold Table.trouble? rest
  cases p.ahead? <;> rfl

theorem taken_of_left_eq_nil {p : Progress table} (h : p.left = []) :
    p.taken = table.seen.length :=
  Nat.le_antisymm p.within (List.drop_eq_nil_iff.mp h)

theorem taken_lt_of_left {p : Progress table} {row : Row} {rest : List Row}
    (h : p.left = row :: rest) : p.taken < table.seen.length := by
  refine Nat.lt_of_not_le fun hle => ?_
  have hnil : p.left = [] := List.drop_eq_nil_of_le hle
  rw [hnil] at h
  cases h

theorem left_forward {p : Progress table} {row : Row} {rest : List Row}
    (h : p.left = row :: rest) : (p.forward (taken_lt_of_left h)).left = rest := by
  show table.seen.drop (p.taken + 1) = rest
  rw [← List.drop_drop]
  exact congrArg (List.drop 1) h

theorem left_finish (p : Progress table) : p.finish.left = [] :=
  List.drop_length

end Progress

namespace Table

/-- The cursor over a table after some reading. -/
def cursorAt (table : Table) (callback : Option (Option Trouble)) (p : Progress table) : Cursor :=
  { table.cursor callback with
    rows := p.left.map Cell.ofRow
    fault := p.ahead?
    pulled := p.taken
    closed := p.closed }

variable {table : Table} (callback : Option (Option Trouble)) (p : Progress table)

theorem cursorAt_start : table.cursorAt callback (.start table) = table.cursor callback := rfl

/-! ## Single steps -/

variable {p}

theorem pull_cursorAt_nil (h : p.left = []) :
    (table.cursorAt callback p).pull =
      (p.ahead?.elim .done .trouble, table.cursorAt callback p.finish) := by
  have hfinish : { table.cursorAt callback p with rows := [], fault := none } =
      table.cursorAt callback p.finish := by
    simp only [cursorAt, Progress.left_finish, Progress.taken_of_left_eq_nil h]
    rfl
  have hrows : (table.cursorAt callback p).rows = [] := congrArg (List.map Cell.ofRow) h
  have hfault : (table.cursorAt callback p).fault = p.ahead? := rfl
  unfold Cursor.pull
  simp only [hrows, hfault]
  cases hahead : p.ahead? with
  | none =>
    have hsame : ∀ cursor : Cursor, cursor.rows = [] → cursor.fault = none →
        { cursor with rows := [], fault := none } = cursor := by
      rintro ⟨⟩ ⟨⟩ ⟨⟩
      rfl
    rw [← hfinish, hsame _ hrows (hfault.trans hahead)]
    rfl
  | some trouble => exact Prod.ext rfl hfinish

theorem pull_cursorAt_cons {row : Row} {rest : List Row} (h : p.left = row :: rest) :
    (table.cursorAt callback p).pull =
      (.row row, table.cursorAt callback (p.forward (Progress.taken_lt_of_left h))) := by
  have hrows : (table.cursorAt callback p).rows = Cell.ofRow row :: rest.map Cell.ofRow :=
    congrArg (List.map Cell.ofRow) h
  simp only [Cursor.pull, hrows, Cell.rowText_ofRow]
  refine Prod.ext rfl ?_
  simp only [cursorAt, Progress.left_forward h]
  rfl

theorem drain_cursorAt :
    (table.cursorAt callback p).drain =
      (⟨p.left, p.ahead?, p.left.length⟩, table.cursorAt callback p.finish) := by
  have hdrained : Cursor.drainRows (table.cursorAt callback p).fault
      (table.cursorAt callback p).rows = ⟨p.left, p.ahead?, p.left.length⟩ :=
    Cursor.drainRows_ofRow p.ahead? p.left
  have hlength : p.taken + p.left.length = table.seen.length := by
    rw [Progress.left, List.length_drop]
    exact Nat.add_sub_of_le p.within
  simp only [Cursor.drain, hdrained]
  refine Prod.ext rfl ?_
  simp only [cursorAt, hlength, Progress.left_finish]
  rfl

theorem close_cursorAt :
    (table.cursorAt callback p).close =
      (⟨if p.closed then none else callback.join,
          if p.closed then [] else callback.toList.map fun _ => .release⟩,
        table.cursorAt callback p.release) := by
  have hclosed : (table.cursorAt callback p).closed = p.closed := rfl
  unfold Cursor.close
  rw [hclosed]
  cases h : p.closed with
  | true =>
    have hrelease : p.release = p := by
      cases p
      cases h
      rfl
    rw [if_pos rfl, if_pos rfl, if_pos rfl, hrelease]
  | false =>
    rw [if_neg Bool.false_ne_true, if_neg Bool.false_ne_true, if_neg Bool.false_ne_true]
    refine Prod.ext ?_ rfl
    show Cursor.Released.mk _ _ = _
    rw [Cursor.Released.mk.injEq]
    exact ⟨trouble_release callback, List.map_map⟩

/-! ## What an operation does -/

/-- What operations do between one state and a later one: they take the next rows, and of the release
only the first one of all does anything. -/
structure Moved (closes : Bool) (before after : Progress table) (rows : List (List Cell))
    (events : List Event) : Prop where
  forward : before.taken ≤ after.taken
  kept : before.ended = true → after.ended = true
  closed : after.closed = (before.closed || closes)
  rows : rows = ((table.seen.drop before.taken).take (after.taken - before.taken)).map Cell.ofRow
  numbers : events.filter (· ≠ .release) =
    (List.range' (before.taken + 1) (after.taken - before.taken)).map .row
  releases : events.count .release =
    if callback.isSome && closes && !before.closed then 1 else 0

theorem Moved.refl (p : Progress table) : Moved callback false p p [] [] where
  forward := Nat.le_refl _
  kept := id
  closed := (Bool.or_false _).symm
  rows := by rw [Nat.sub_self]; rfl
  numbers := by rw [Nat.sub_self]; rfl
  releases := by rw [Bool.and_false]; rfl

variable {callback}

theorem Moved.trans {closes closes' : Bool} {first second third : Progress table}
    {rows rows' : List (List Cell)} {events events' : List Event}
    (h : Moved callback closes first second rows events)
    (h' : Moved callback closes' second third rows' events') :
    Moved callback (closes || closes') first third (rows ++ rows') (events ++ events') := by
  have hcount : third.taken - first.taken =
      (second.taken - first.taken) + (third.taken - second.taken) := by
    have := h.forward
    have := h'.forward
    omega
  have hsecond : first.taken + (second.taken - first.taken) = second.taken :=
    Nat.add_sub_of_le h.forward
  refine ⟨Nat.le_trans h.forward h'.forward, fun hended => h'.kept (h.kept hended), ?_, ?_, ?_, ?_⟩
  · rw [h'.closed, h.closed, Bool.or_assoc]
  · rw [h.rows, h'.rows, hcount, List.take_add, List.drop_drop, hsecond, List.map_append]
  · have hnext : second.taken + 1 = first.taken + 1 + (second.taken - first.taken) := by omega
    rw [List.filter_append, h.numbers, h'.numbers, hcount, ← List.map_append, hnext,
      List.range'_append_1]
  · rw [List.count_append, h.releases, h'.releases, h.closed]
    cases callback.isSome <;> cases closes <;> cases closes' <;> cases first.closed <;> rfl

/-- Rows that are taken without a release. -/
theorem moved_of_taken {before after : Progress table} (forward : before.taken ≤ after.taken)
    (kept : before.ended = true → after.ended = true) (closed : after.closed = before.closed) :
    Moved callback false before after
      ((table.cursorAt callback before).takenTo (table.cursorAt callback after))
      ((table.cursorAt callback before).pullsTo (table.cursorAt callback after)) where
  forward := forward
  kept := kept
  closed := by rw [closed, Bool.or_false]
  rows := List.map_take.symm
  numbers := by
    refine List.filter_eq_self.mpr fun event hevent => ?_
    obtain ⟨number, _, rfl⟩ := List.mem_map.mp hevent
    rfl
  releases := by
    rw [Bool.and_false]
    refine List.count_eq_zero.mpr fun hrelease => ?_
    obtain ⟨number, _, hnumber⟩ := List.mem_map.mp hrelease
    cases hnumber

/-- A release, which does nothing after another one. -/
theorem moved_release (p : Progress table) :
    Moved callback true p p.release []
      (if p.closed then [] else callback.toList.map fun _ => .release) where
  forward := Nat.le_refl _
  kept := id
  closed := (Bool.or_true _).symm
  rows := by
    show [] = ((table.seen.drop p.taken).take (p.taken - p.taken)).map Cell.ofRow
    rw [Nat.sub_self]
    rfl
  numbers := by
    show _ = (List.range' (p.taken + 1) (p.taken - p.taken)).map Event.row
    rw [Nat.sub_self]
    cases p.closed <;> cases callback <;> rfl
  releases := by
    cases p.closed <;> cases callback <;> rfl

/-- Measuring takes rows only, and meets their end if it asks for a row when there is none left. -/
theorem measure_cursorAt (unquote : Bool) (p : Progress table) :
    ∃ after : Progress table,
      ((table.cursorAt callback p).measure unquote).cursor = table.cursorAt callback after ∧
        p.taken ≤ after.taken ∧ (p.ended = true → after.ended = true) ∧
        after.closed = p.closed ∧
        ((table.cursorAt callback p).Exhausts (.reduce unquote) → after.ended = true) := by
  by_cases hcolumns : table.columns = []
  · refine ⟨p, ?_, Nat.le_refl _, id, rfl, fun hexhausts => absurd hcolumns hexhausts.1⟩
    rw [Cursor.measure_of_columns_eq_nil unquote hcolumns]
  · have hwide : (table.cursorAt callback p).columns ≠ [] := hcolumns
    unfold Cursor.measure
    simp only [if_neg hwide]
    cases hleft : p.left with
    | nil =>
      refine ⟨p.finish, ?_, p.within, fun _ => rfl, rfl, fun _ => rfl⟩
      rw [pull_cursorAt_nil callback hleft]
      cases p.ahead? <;> rfl
    | cons row rest =>
      -- a first row without a number is not read on from
      have hbad : ∀ {trouble : Trouble}, Measurement.ofRow unquote table.form (Cell.ofRow row) =
          .error trouble → ¬ (table.cursorAt callback p).Exhausts (.reduce unquote) := by
        rintro trouble htrouble ⟨_, hfirst⟩
        have hhead : (table.cursorAt callback p).rows.head? = some (Cell.ofRow row) :=
          congrArg (fun rows => (List.map Cell.ofRow rows).head?) hleft
        obtain ⟨value, hvalue⟩ := hfirst _ hhead
        cases htrouble.symm.trans hvalue
      have hrow := ofRow_ofRow unquote table.form row
      have hforward := Progress.taken_lt_of_left hleft
      rw [pull_cursorAt_cons callback hleft]
      cases row with
      | nil =>
        exact ⟨p.forward hforward, rfl, Nat.le_succ _, id, rfl, fun h => absurd h (hbad hrow)⟩
      | cons cell cells =>
        cases hcell : Measurement.ofCell unquote cell with
        | error trouble =>
          refine ⟨p.forward hforward, ?_, Nat.le_succ _, id, rfl,
            fun h => absurd h (hbad (hrow.trans hcell))⟩
          simp only [hcell]
        | ok value =>
          refine ⟨p.finish, ?_, p.within, fun _ => rfl, rfl, fun _ => rfl⟩
          simp only [hcell, drain_cursorAt]
          cases (p.forward hforward).ahead? <;> rfl

/-- A reading after the end of the rows finds none. -/
theorem measure_of_ended {p : Progress table} (unquote : Bool) (hcolumns : table.columns ≠ [])
    (hended : p.ended = true) :
    ((table.cursorAt callback p).measure unquote).result = .error (Reading.noRows table.columns) := by
  have hleft : p.left = [] := List.drop_eq_nil_of_le (Nat.le_of_eq (p.last hended).symm)
  have hrows : (table.cursorAt callback p).rows = [] := congrArg (List.map Cell.ofRow) hleft
  have hmeasured := (Cursor.measure_of_rows_eq_nil unquote hcolumns hrows).1
  have hahead : (table.cursorAt callback p).fault = none := if_pos hended
  rw [hahead] at hmeasured
  exact hmeasured

/-- One operation takes the next rows, may meet their end and may release. -/
theorem step_cursorAt (operation : Operation) (p : Progress table) :
    ∃ after : Progress table,
      ((table.cursorAt callback p).perform operation).2 = table.cursorAt callback after ∧
        Moved callback operation.closes p after
          ((table.cursorAt callback p).perform operation).1.rows
          ((table.cursorAt callback p).perform operation).1.events ∧
        ((table.cursorAt callback p).Exhausts operation → after.ended = true) := by
  cases operation with
  | next =>
    cases hleft : p.left with
    | nil =>
      simp only [Cursor.perform, pull_cursorAt_nil callback hleft]
      exact ⟨p.finish, rfl, moved_of_taken p.within (fun _ => rfl) rfl, fun _ => rfl⟩
    | cons row rest =>
      simp only [Cursor.perform, pull_cursorAt_cons callback hleft]
      refine ⟨p.forward (Progress.taken_lt_of_left hleft), rfl,
        moved_of_taken (Nat.le_succ _) id rfl, fun hexhausts => ?_⟩
      cases (congrArg (List.map Cell.ofRow) hleft).symm.trans hexhausts
  | rest =>
    simp only [Cursor.perform, drain_cursorAt]
    exact ⟨p.finish, rfl, moved_of_taken p.within (fun _ => rfl) rfl, fun _ => rfl⟩
  | close =>
    simp only [Cursor.perform, close_cursorAt]
    refine ⟨p.release, rfl, ?_, fun hexhausts => hexhausts.elim⟩
    have hnone : (table.cursorAt callback p).takenTo (table.cursorAt callback p.release) = [] := by
      show List.take (p.taken - p.taken) _ = []
      rw [Nat.sub_self]
      rfl
    simp only [hnone]
    exact moved_release p
  | describe => exact ⟨p, rfl, .refl callback p, fun hexhausts => hexhausts.elim⟩
  | reduce unquote =>
    obtain ⟨after, hcursor, hforward, hkept, hclosed, hended⟩ := @measure_cursorAt _ callback unquote p
    simp only [Cursor.perform, Cursor.readOut, hcursor, close_cursorAt]
    refine ⟨after.release, rfl, ?_, hended⟩
    have hmoved := (@moved_of_taken _ callback _ _ hforward hkept hclosed).trans (moved_release after)
    rw [List.append_nil] at hmoved
    exact hmoved

/-- A run takes the next rows and releases just if one of its operations does. -/
theorem run_cursorAt (operations : List Operation) (p : Progress table) :
    ∃ after : Progress table,
      ((table.cursorAt callback p).history operations).2 = table.cursorAt callback after ∧
        Moved callback (operations.any (·.closes)) p after
          (((table.cursorAt callback p).history operations).1.flatMap (·.rows))
          (((table.cursorAt callback p).history operations).1.flatMap (·.events)) := by
  induction operations generalizing p with
  | nil => exact ⟨p, rfl, .refl callback p⟩
  | cons operation later ih =>
    obtain ⟨next, hnext, hstep, _⟩ := @step_cursorAt _ callback operation p
    obtain ⟨after, hafter, hrun⟩ := ih next
    rw [← hnext] at hafter hrun
    exact ⟨after, hafter, hstep.trans hrun⟩

theorem history_append (earlier later : List Operation) (cursor : Cursor) :
    (cursor.history (earlier ++ later)).2 = ((cursor.history earlier).2.history later).2 := by
  induction earlier generalizing cursor with
  | nil => rfl
  | cons operation earlier ih => exact ih (cursor.perform operation).2

/-- An operation that meets the end of the rows leaves it behind for good. -/
theorem ended_of_exhausts {earlier later : List Operation} {operation : Operation}
    (h : ((table.cursor callback).history earlier).2.Exhausts operation) :
    ∃ after : Progress table, after.ended = true ∧
      ((table.cursor callback).history (earlier ++ operation :: later)).2 =
        table.cursorAt callback after := by
  obtain ⟨before, hbefore, _⟩ := @run_cursorAt _ callback earlier (.start table)
  rw [cursorAt_start] at hbefore
  rw [hbefore] at h
  obtain ⟨next, hnext, _, hended⟩ := @step_cursorAt _ callback operation before
  obtain ⟨after, hafter, hmoved⟩ := @run_cursorAt _ callback later next
  refine ⟨after, hmoved.kept (hended h), ?_⟩
  rw [history_append, hbefore]
  show (((table.cursorAt callback before).perform operation).2.history later).2 = _
  rw [hnext, hafter]

/-! ## What is answered -/

/-- Whatever has been asked before, an operation answers as it would if the rows that are left were
all there had ever been. -/
theorem answer_cursorAt {operation : Operation} (h : operation ≠ .describe) (p : Progress table) :
    ((table.cursorAt callback p).perform operation).1.answer =
      ((p.rest.cursor (if p.closed then none else callback)).perform operation).1.answer := by
  have halike : Cursor.Alike (table.cursorAt callback p)
      (p.rest.cursor (if p.closed then none else callback)) :=
    ⟨rfl, rfl, congrArg (List.map Cell.ofRow) p.seen_rest.symm, p.trouble?_rest.symm⟩
  have hrelease : (table.cursorAt callback p).close.1.trouble =
      (p.rest.cursor (if p.closed then none else callback)).close.1.trouble := by
    rw [close_cursorAt, ← cursorAt_start, close_cursorAt]
    cases p.closed <;> rfl
  cases operation with
  | next => exact congrArg Answer.pulled halike.pull
  | rest => exact congrArg Answer.drained halike.drain
  | close => exact congrArg Answer.released hrelease
  | describe => exact absurd rfl h
  | reduce unquote =>
    show Answer.read ((table.cursorAt callback p).readOut unquote).1.result =
      Answer.read ((p.rest.cursor _).readOut unquote).1.result
    rw [Cursor.result_readOut, Cursor.result_readOut, halike.measure, hrelease]

/-- A reading after the end of the rows fails because there are none. -/
theorem readOut_of_ended {p : Progress table} (unquote : Bool) (hcolumns : table.columns ≠ [])
    (hended : p.ended = true) :
    ∃ released, ((table.cursorAt callback p).readOut unquote).1.result =
      .error { cause := .noRows Cause.noRowsText table.columns, released } := by
  rw [Cursor.result_readOut, measure_of_ended unquote hcolumns hended]
  cases (table.cursorAt callback p).close.1.trouble with
  | none => exact ⟨none, rfl⟩
  | some later => exact ⟨some later.record, rfl⟩

/-- However a result is used, the callback is called once if the result is released at all, and the
result is closed just then; a further release neither does anything nor fails. The rows that were
taken are the first ones, in their order and each once. What is answered further on depends on the
other rows only, and a reading finds none once their end, or what broke them off, has been met. -/
theorem history_cursor (table : Table) (callback : Option (Option Trouble))
    (operations : List Operation) :
    let steps := ((table.cursor callback).history operations).1
    let last := ((table.cursor callback).history operations).2
    let closes := operations.any (·.closes)
    (steps.flatMap (·.events)).count .release = (if callback.isSome && closes then 1 else 0) ∧
      last.closed = closes ∧
      (closes = true → last.close.1 = ⟨none, []⟩) ∧
      ∃ p : Progress table,
        steps.flatMap (·.rows) = (table.seen.take p.taken).map Cell.ofRow ∧
        (steps.flatMap (·.events)).filter (· ≠ .release) = (List.range' 1 p.taken).map .row ∧
        (∀ operation, operation ≠ .describe →
          (last.perform operation).1.answer =
            ((p.rest.cursor (if closes then none else callback)).perform operation).1.answer) ∧
        ∀ earlier operation later, operations = earlier ++ operation :: later →
          ((table.cursor callback).history earlier).2.Exhausts operation → table.columns ≠ [] →
            ∀ unquote, ∃ released, (last.readOut unquote).1.result =
              .error { cause := .noRows Cause.noRowsText table.columns, released } := by
  intro steps last closes
  obtain ⟨p, hlast, hmoved⟩ := @run_cursorAt _ callback operations (.start table)
  rw [cursorAt_start] at hlast hmoved
  have hclosed : p.closed = closes := hmoved.closed
  refine ⟨?_, ?_, ?_, p, hmoved.rows, hmoved.numbers, ?_, ?_⟩
  · have hreleases := hmoved.releases
    rw [show (Progress.start table).closed = false from rfl, Bool.not_false, Bool.and_true]
      at hreleases
    exact hreleases
  · show last.closed = closes
    rw [show last = _ from hlast, ← hclosed]
    rfl
  · intro hcloses
    rw [show last = _ from hlast, close_cursorAt, if_pos (hclosed.trans hcloses),
      if_pos (hclosed.trans hcloses)]
  · intro operation hoperation
    rw [show last = _ from hlast, answer_cursorAt hoperation, hclosed]
  · rintro earlier operation later hoperations hexhausts hcolumns unquote
    obtain ⟨after, hended, hafter⟩ := @ended_of_exhausts _ _ earlier later _ hexhausts
    rw [← hoperations] at hafter
    rw [show last = _ from hafter]
    exact readOut_of_ended unquote hcolumns hended

end Table

end SqlGauge
