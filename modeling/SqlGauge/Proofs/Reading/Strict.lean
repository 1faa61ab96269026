import SqlGauge.Proofs.Number.Nearest
import SqlGauge.Proofs.Reading.Table

/-!
# The strict reading of numbers

`Measurement.Strict` says which texts count as numbers: a word for infinity or for what is not a
number, in any case, or a decimal numeral, with nothing before or after. `Measurement.Stands` says in
addition which double such a text stands for: a numeral for the one that is nearest to its number. A
cell is read as a number just if its text is one, and as just this double (`Measurement.read_stands`).

A cell that is not read as a number should fail for that reason, with its text. It does unless its text
is a misspelled word (`Measurement.read_without_number`): such a text passes for a word and is refused
by the conversion, so the reading of a result counts it as a query that could not be read
(`Measurement.not_notANumber_dotless`).
-/

namespace SqlGauge.Measurement

open Numeral (Sign)
open Binary64 (Nearest)

/-! ## Numbers -/

/-- The words for a number that is no decimal. -/
def words : List (List Char) :=
  ["inf".toList, "infinity".toList, "nan".toList]

/-- A text that counts as a number. -/
inductive Strict : List Char → Prop where
  | word {sign body : List Char} {negative : Bool} (side : Sign sign negative)
      (word : body.map Char.toLower ∈ words) : Strict (sign ++ body)
  | decimal {text : List Char} {d : Decimal} (numeral : Numeral text d) : Strict text

/-- A text, and the double that it stands for. -/
inductive Stands : List Char → Binary64 → Prop where
  | word {sign body : List Char} {negative : Bool} {value : Binary64} (side : Sign sign negative)
      (word : Word negative (body.map Char.toLower) value) : Stands (sign ++ body) value
  | decimal {text : List Char} {d : Decimal} {value : Binary64} (numeral : Numeral text d)
      (nearest : Nearest d.negative d.magnitude value) : Stands text value

theorem number_iff_stands {text : List Char} {value : Binary64} :
    Number text value ↔ Stands text value := by
  constructor
  · intro h
    cases h with
    | word side word => exact .word side word
    | numeral numeral => exact .decimal numeral (Decimal.nearest_iff.mpr rfl)
  · intro h
    cases h with
    | word side word => exact .word side word
    | decimal numeral nearest =>
      rw [← Decimal.nearest_iff.mp nearest]
      exact .numeral numeral

theorem mem_words_iff (negative : Bool) {word : List Char} :
    word ∈ words ↔ ∃ value, Word negative word value := by
  constructor
  · intro h
    simp only [words, List.mem_cons, List.not_mem_nil, or_false] at h
    rcases h with rfl | rfl | rfl
    · exact ⟨_, .short⟩
    · exact ⟨_, .long⟩
    · exact ⟨_, .nan⟩
  · rintro ⟨value, h⟩
    cases h <;> simp [words]

/-- What counts as a number stands for a double, and nothing else does. -/
theorem strict_iff {text : List Char} : Strict text ↔ ∃ value, Number text value := by
  constructor
  · intro h
    cases h with
    | @word _ _ negative side word =>
      obtain ⟨value, hvalue⟩ := (mem_words_iff negative).mp word
      exact ⟨value, .word side hvalue⟩
    | decimal numeral => exact ⟨_, .numeral numeral⟩
  · rintro ⟨value, h⟩
    cases h with
    | @word _ _ negative _ side word => exact .word side ((mem_words_iff negative).mpr ⟨_, word⟩)
    | numeral numeral => exact .decimal numeral

/-- A null is not read as a number, and a text is read as what it is. -/
theorem read_eq_ok_iff_number {cell : Option String} {value : Binary64} :
    read cell = .ok value ↔ ∃ text, cell = some text ∧ Number text.toList value := by
  cases cell with
  | none => simp [read]
  | some text => simp [read_eq_ok_iff]

/-- A cell is read as a number just if it has a text that counts as one, and it is read as the double
that the text stands for. -/
theorem read_stands (cell : Option String) :
    ((∃ value, read cell = .ok value) ↔ ∃ text, cell = some text ∧ Strict text.toList) ∧
      ∀ value, read cell = .ok value ↔ ∃ text, cell = some text ∧ Stands text.toList value := by
  constructor
  · simp only [read_eq_ok_iff_number, strict_iff]
    constructor
    · rintro ⟨value, text, hcell, hnumber⟩
      exact ⟨text, hcell, value, hnumber⟩
    · rintro ⟨text, hcell, value, hnumber⟩
      exact ⟨value, text, hcell, hnumber⟩
  · intro value
    simp only [read_eq_ok_iff_number, number_iff_stands]

/-! ## Cells without a number -/

/-- The cell holds a misspelled word. -/
def Misspells (cell : Option String) : Prop :=
  ∃ text, cell = some text ∧ Misspelled text.toList

/-- A cell and what the number is looked for in: a text loses its quotes if they are to be taken
off. -/
inductive Judged (unquote : Bool) : Option String → Option String → Prop where
  | null : Judged unquote none none
  | text {text inner : String} (stripped : Stripped unquote text inner) :
      Judged unquote (some text) (some inner)

theorem Judged.ofCell_eq {unquote : Bool} {first cell : Option String}
    (h : Judged unquote first cell) : ofCell unquote first = read cell := by
  cases h with
  | null => rfl
  | text stripped => exact ofCell_of_stripped stripped

/-- A cell without a number fails for the lack of one, or it holds a misspelled word. -/
theorem read_cases {cell : Option String} (none : ¬ ∃ value, read cell = .ok value) :
    ¬ Misspells cell ∧ read cell = .error (notANumber cell) ∨
      ∃ text, cell = some text ∧ Misspelled text.toList ∧
        read cell = .error (.refusal (.notAFloat text)) := by
  cases cell with
  | none =>
    left
    refine ⟨?_, rfl⟩
    rintro ⟨_, h, _⟩
    cases h
  | some text =>
    by_cases hspelled : Misspelled text.toList
    · exact .inr ⟨text, rfl, hspelled, read_of_misspelled hspelled⟩
    · left
      constructor
      · rintro ⟨_, ⟨⟩, h⟩
        exact hspelled h
      · refine read_eq_notANumber_iff.mpr ⟨?_, hspelled⟩
        rintro ⟨value, hnumber⟩
        exact none ⟨value, read_of_number hnumber⟩

end SqlGauge.Measurement

namespace SqlGauge

/-- The failure is that a result which could be read has no measurement. -/
def TroubleKind.IsExtraction : TroubleKind → Prop
  | extraction | noColumns | noRows | notANumber | notQuoted => True
  | _ => False

/-- What comes of reading a table whose first cell has no number. -/
theorem Table.readOut_without_number {unquote : Bool} {table : Table} {first cell : Option String}
    {cells : Row} {further : List Row} (callback : Option (Option Trouble))
    (wide : table.columns ≠ []) (seen : table.seen = (first :: cells) :: further)
    (judged : Measurement.Judged unquote first cell) {trouble : Trouble}
    (read : Measurement.read cell = .error trouble) :
    ((table.cursor callback).readOut unquote).1.result =
      afterRelease (.error trouble.whileReading) callback.join := by
  have hrow : Measurement.ofRow unquote table.form (Cell.ofRow (first :: cells)) = .error trouble := by
    rw [ofRow_ofRow]
    exact judged.ofCell_eq.trans read
  rw [(readOut_cursor unquote table callback).1,
    (measure_first_bad callback wide seen hrow).1]
  rfl

end SqlGauge

namespace SqlGauge.Measurement

/-- A cell without a number fails for the lack of one, with its text, just if it does not hold a
misspelled word; a text that is one is refused by the conversion. So a result with such a cell for its
first one has no measurement, or could not be read. -/
theorem read_without_number {cell : Option String} (none : ¬ ∃ value, read cell = .ok value) :
    (read cell = .error (notANumber cell) ↔ ¬ Misspells cell) ∧
      (∀ text, cell = some text → Misspelled text.toList →
        read cell = .error (.refusal (.notAFloat text))) ∧
      ∀ unquote (table : Table) first cells further callback, table.columns ≠ [] →
        table.seen = (first :: cells) :: further → Judged unquote first cell →
          ∃ failure : Failure,
            ((table.cursor callback).readOut unquote).1.result =
                Table.afterRelease (.error failure) callback.join ∧
              (¬ Misspells cell → failure.cause = .notANumber cell) ∧
              (failure.cause.kind.IsExtraction ↔ ¬ Misspells cell) ∧
              (failure.cause.kind = .query ↔ Misspells cell) := by
  rcases read_cases none with ⟨hspelled, hread⟩ | ⟨text, rfl, hmisspelled, hread⟩
  · refine ⟨by simp [hread, hspelled], ?_, ?_⟩
    · rintro text rfl hmisspelled
      exact absurd ⟨text, rfl, hmisspelled⟩ hspelled
    · intro unquote table first cells further callback wide seen judged
      refine ⟨_, Table.readOut_without_number callback wide seen judged hread, ?_⟩
      simp [hspelled, notANumber, Trouble.whileReading, Cause.kind, TroubleKind.IsExtraction]
  · have hspelled : Misspells (some text) := ⟨text, rfl, hmisspelled⟩
    refine ⟨by simp [hread, hspelled, notANumber], ?_, ?_⟩
    · rintro _ ⟨⟩ _
      exact hread
    · intro unquote table first cells further callback wide seen judged
      refine ⟨_, Table.readOut_without_number callback wide seen judged hread, ?_⟩
      simp [hspelled, Trouble.whileReading, Cause.kind, TroubleKind.IsExtraction]

/-- A blank before the digits is enough. -/
theorem read_without_number_blank :
    (¬ ∃ value, read (some " 1") = .ok value) ∧
      (read (some " 1") = .error (notANumber (some " 1")) ↔ ¬ Misspells (some " 1")) := by
  have hread : read (some " 1") = .error (notANumber (some " 1")) := by decide
  have hnone : ¬ ∃ value, read (some " 1") = .ok value := by
    rintro ⟨value, h⟩
    rw [hread] at h
    cases h
  exact ⟨hnone, (read_without_number hnone).1⟩

/-- The lack of a number is not always the failure: a dotless `i` hides it. -/
theorem not_notANumber_dotless :
    ¬ ∀ cell, (¬ ∃ value, read cell = .ok value) → read cell = .error (notANumber cell) := by
  intro h
  have hread : read (some "\u0131nf") = .error (.refusal (.notAFloat "\u0131nf")) := by decide
  have hnone : ¬ ∃ value, read (some "\u0131nf") = .ok value := by
    rintro ⟨value, hvalue⟩
    rw [hread] at hvalue
    cases hvalue
  have hfailure := h _ hnone
  rw [hread] at hfailure
  cases hfailure

end SqlGauge.Measurement
