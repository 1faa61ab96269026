import SqlGauge.Proofs.Cursor
import SqlGauge.Proofs.Number.Written
import SqlGauge.Proofs.Reading.Strict
import SqlGauge.Proofs.Text.Utf8

/-!
# The cell types of a driver

A driver hands the first cell of a result over as a text, as bytes, as a number or as a truth value,
and all of them become texts before they are read. Nothing of the number is lost on the way: a double
counts as itself and an integer as the double nearest to it (`Cursor.CountsAs`), bytes make no
difference to the text that they encode, and a truth value is no number, ever
(`Cursor.brought_first_cell`).

A cell enters the reading of a result only through what its text is read as (`Cursor.brought_congr`),
so all this follows from how the texts of cells are read.
-/

namespace SqlGauge

/-! ## The texts of numbers -/

section texts

open Measurement (Number)

/-- A double is read from its own text. -/
theorem Binary64.number_shortText (value : Binary64) : Number value.shortText.toList value := by
  cases value with
  | nan => exact @Number.word [] "nan".toList false .nan .absent .nan
  | infinite negative =>
    show Number (String.ofList _).toList _
    rw [String.toList_ofList]
    exact .word (sign_signText negative) .short
  | finite negative m =>
    obtain ⟨d, hnumeral, hd⟩ := exists_numeral_shortText negative m
    have hnumber := Number.numeral hnumeral
    rwa [hd] at hnumber

/-- An integer is read from its digits as the double nearest to it. -/
theorem Measurement.exists_number_toString (number : Int) :
    ∃ value, Binary64.Nearest (decide (number < 0)) number.natAbs value ∧
      Number (toString number).toList value := by
  obtain ⟨d, hnumeral, hd⟩ := Binary64.exists_numeral_toString number
  have hnearest := (@Decimal.nearest_iff ⟨decide (number < 0), number.natAbs, 0⟩ _).mpr hd.symm
  rw [Decimal.magnitude, zpow_zero, mul_one] at hnearest
  exact ⟨d.toBinary64, hnearest, .numeral hnumeral⟩

end texts

/-! ## The first cell of a row -/

theorem Measurement.ofCell_false (text : Option String) : ofCell false text = read text := by
  cases text <;> rfl

section row

variable {cell : Cell} {text : Option String} (h : cell.text? = .ok text) (cells : List Cell)
include h

theorem Cell.rowText_cons : rowText (cell :: cells) = (rowText cells).map (text :: ·) := by
  rw [rowText, h]
  cases rowText cells <;> rfl

/-- A row has the number that the text of its first cell is read as, if the other cells can be
written. -/
theorem Measurement.ofRow_cons (form : RowForm) :
    Cell.Writable cells ∧ ofRow false form (cell :: cells) = read text ∨
      ¬ Cell.Writable cells ∧ ∃ refusal,
        ofRow false form (cell :: cells) = .error (.refusal refusal) := by
  unfold ofRow
  rw [Cell.rowText_cons h, ← Cell.exists_rowText_iff]
  cases Cell.rowText cells with
  | error refusal => exact .inr ⟨fun ⟨_, hrow⟩ => (nomatch hrow), refusal, rfl⟩
  | ok others => exact .inl ⟨⟨others, rfl⟩, ofCell_false text⟩

end row

namespace Cursor

open Binary64 (Nearest)
open Measurement (Stands)

/-! ## The first cell of a result -/

/-- The cursor with the given cell before the other cells of the first row, and with further rows. -/
def startingWith (cursor : Cursor) (cells : List Cell) (further : List (List Cell)) (cell : Cell) :
    Cursor :=
  { cursor with rows := (cell :: cells) :: further }

/-- What comes of reading out a result with this first cell. -/
def brought (cursor : Cursor) (cells : List Cell) (further : List (List Cell)) (cell : Cell) :
    Outcome Failure Reading :=
  ((cursor.startingWith cells further cell).readOut false).1

/-- Nothing but the first cell stands in the way of a reading. -/
structure Clear (cursor : Cursor) (cells : List Cell) (further : List (List Cell)) : Prop where
  wide : cursor.columns ≠ []
  whole : cursor.fault = none
  writable : Cell.Writable cells
  rest : ∀ row ∈ further, Cell.Writable row
  released : cursor.close.1.trouble = none

/-- It does not matter which of two cells a result starts with. -/
def SameAs (cell cell' : Cell) : Prop :=
  ∀ cursor cells further, brought cursor cells further cell = brought cursor cells further cell'

/-- As the first cell of a result, the cell counts as the number: this is what a reading reports, there
is a reading if nothing else stands in its way, and any text of the number would do as well. -/
structure CountsAs (cell : Cell) (value : Binary64) : Prop where
  reported : ∀ cursor cells further reading,
    (brought cursor cells further cell).result = .ok reading → reading.value = value
  read : ∀ cursor cells further,
    (∃ reading, (brought cursor cells further cell).result = .ok reading) ↔
      Clear cursor cells further
  same : ∀ text : String, Stands text.toList value → SameAs cell (.text text)

/-- As the first cell of a result, the cell is no number: there is never a reading, and if the result has
columns and the other cells of the row can be written, this is why. -/
structure IsNoNumber (cell : Cell) (text : String) : Prop where
  unread : ∀ cursor cells further reading,
    (brought cursor cells further cell).result ≠ .ok reading
  failure : ∀ cursor cells further,
    (∃ failure, (brought cursor cells further cell).result = .error failure ∧
        failure.cause = .notANumber (some text)) ↔
      cursor.columns ≠ [] ∧ Cell.Writable cells

/-- What comes of it is settled by the measuring. -/
theorem brought_eq (cursor : Cursor) (cells : List Cell) (further : List (List Cell)) (cell : Cell) :
    let measured := (cursor.startingWith cells further cell).measure false
    brought cursor cells further cell =
      ⟨settle measured.result cursor.close.1.trouble,
        ⟨cursor.pullsTo measured.cursor ++ cursor.close.1.events, measured.lines⟩⟩ := by
  intro measured
  obtain ⟨hcolumns, hrelease, hclosed⟩ :=
    advanced_measure false (cursor.startingWith cells further cell)
  have hclose := @Advanced.close_eq cursor measured.cursor ⟨hcolumns, hrelease, hclosed⟩
  rw [← hclose]
  rfl

/-- The first cell matters for what its text is read as, and for nothing else. -/
theorem brought_congr {cell cell' : Cell} {text text' : Option String} (h : cell.text? = .ok text)
    (h' : cell'.text? = .ok text') (hread : Measurement.read text = Measurement.read text') :
    SameAs cell cell' := by
  intro cursor cells further
  rw [brought_eq, brought_eq]
  by_cases hcolumns : cursor.columns = []
  · rw [@measure_of_columns_eq_nil false (cursor.startingWith cells further cell) hcolumns,
      @measure_of_columns_eq_nil false (cursor.startingWith cells further cell') hcolumns]
    rfl
  · have hmeasure : (cursor.startingWith cells further cell).measure false =
        (cursor.startingWith cells further cell').measure false := by
      simp only [measure, startingWith, pull, Cell.rowText_cons h, Cell.rowText_cons h',
        if_neg hcolumns]
      cases Cell.rowText cells with
      | error refusal => rfl
      | ok others =>
        simp only [Except.map, Measurement.ofCell_false, hread]
        rfl
    rw [hmeasure]

/-! ## Numbers -/

/-- There is a reading just if nothing stands in its way and the first cell is read as a number, and this
is what it reports. -/
theorem exists_reading_iff {cell : Cell} {text : Option String} (h : cell.text? = .ok text)
    (cursor : Cursor) (cells : List Cell) (further : List (List Cell)) {value : Binary64} :
    (∃ reading, (brought cursor cells further cell).result = .ok reading ∧ reading.value = value) ↔
      Clear cursor cells further ∧ Measurement.read text = .ok value := by
  have hmeasured := @exists_measure_eq_ok_iff false (cursor.startingWith cells further cell) value
  simp only [brought_eq, settle_eq_ok_iff]
  constructor
  · rintro ⟨reading, ⟨hreading, hreleased⟩, hvalue⟩
    obtain ⟨hwide, hwhole, hwritable, first, rest, hrows, hfirst⟩ :=
      hmeasured.mp ⟨reading, hreading, hvalue⟩
    obtain ⟨rfl, rfl⟩ := List.cons.inj hrows
    rcases Measurement.ofRow_cons h cells cursor.form with ⟨hcells, hrow⟩ | ⟨_, refusal, hrow⟩
    · exact ⟨⟨hwide, hwhole, hcells, (List.forall_mem_cons.mp hwritable).2, hreleased⟩,
        hrow.symm.trans hfirst⟩
    · cases hrow.symm.trans hfirst
  · rintro ⟨hclear, hread⟩
    have hrow : Measurement.ofRow false cursor.form (cell :: cells) = .ok value := by
      rcases Measurement.ofRow_cons h cells cursor.form with ⟨_, hrow⟩ | ⟨hcells, _⟩
      · exact hrow.trans hread
      · exact absurd hclear.writable hcells
    have hfirst := (Measurement.ofRow_eq_ok_iff.mp hrow).1
    obtain ⟨reading, hreading, hvalue⟩ := hmeasured.mpr ⟨hclear.wide, hclear.whole,
      List.forall_mem_cons.mpr ⟨hfirst, hclear.rest⟩, _, _, rfl, hrow⟩
    exact ⟨reading, ⟨hreading, hclear.released⟩, hvalue⟩

/-- A cell whose text is read as a number counts as it. -/
theorem countsAs_of_read {cell : Cell} {text : Option String} {value : Binary64}
    (h : cell.text? = .ok text) (hread : Measurement.read text = .ok value) :
    CountsAs cell value := by
  refine ⟨?_, ?_, ?_⟩
  · intro cursor cells further reading hresult
    have hreported := ((exists_reading_iff h cursor cells further).mp ⟨reading, hresult, rfl⟩).2
    rw [hread] at hreported
    exact (Except.ok.inj hreported).symm
  · intro cursor cells further
    constructor
    · rintro ⟨reading, hresult⟩
      exact ((exists_reading_iff h cursor cells further).mp ⟨reading, hresult, rfl⟩).1
    · intro hclear
      obtain ⟨reading, hresult, _⟩ := (exists_reading_iff h cursor cells further).mpr ⟨hclear, hread⟩
      exact ⟨reading, hresult⟩
  · intro other hstands
    have hother := Measurement.read_of_number (Measurement.number_iff_stands.mpr hstands)
    exact brought_congr h rfl (hread.trans hother.symm)

theorem cause_settle {trouble : Trouble} {released : Option Trouble} {cause : Cause} :
    (∃ failure, settle (.error trouble) released = .error failure ∧ failure.cause = cause) ↔
      trouble.whileReading.cause = cause := by
  cases released <;> simp [settle]

/-- A cell whose text is no number is none. -/
theorem isNoNumber_of_read {cell : Cell} {text : String} (h : cell.text? = .ok (some text))
    (hread : Measurement.read (some text) = .error (Measurement.notANumber (some text))) :
    IsNoNumber cell text := by
  constructor
  · intro cursor cells further reading hresult
    have hnone := ((exists_reading_iff h cursor cells further).mp ⟨reading, hresult, rfl⟩).2
    rw [hread] at hnone
    cases hnone
  · intro cursor cells further
    rw [brought_eq]
    by_cases hcolumns : cursor.columns = []
    · rw [@measure_of_columns_eq_nil false (cursor.startingWith cells further cell) hcolumns,
        cause_settle]
      exact iff_of_false (fun hcause => nomatch hcause) fun hwide => hwide.1 hcolumns
    · rcases Measurement.ofRow_cons h cells cursor.form with ⟨hcells, hrow⟩ | ⟨hcells, refusal, hrow⟩
      · rw [(@measure_bad false (cursor.startingWith cells further cell) _ _ _ hcolumns rfl
          (hrow.trans hread)).1, cause_settle]
        exact iff_of_true rfl ⟨hcolumns, hcells⟩
      · rw [(@measure_bad false (cursor.startingWith cells further cell) _ _ _ hcolumns rfl
          hrow).1, cause_settle]
        exact iff_of_false (fun hcause => nomatch hcause) fun hwritable => hcells hwritable.2

/-! ## The types of cells -/

/-- As the first cell of a result, a double counts as itself and an integer, if it is not too long to be
written, as the double that is nearest to it; bytes are the same as the text that they encode, and the
truth values are no numbers. -/
theorem brought_first_cell :
    (∀ value, CountsAs (.real value) value) ∧
      (∀ number : Int, (Nat.toDigits 10 number.natAbs).length ≤ 4300 →
        ∃ value, Nearest (decide (number < 0)) number.natAbs value ∧
          CountsAs (.integer number) value) ∧
      (∀ text : String, SameAs (.bytes (Text.Utf8.encode text.toList)) (.text text)) ∧
      IsNoNumber (.truth true) "True" ∧ IsNoNumber (.truth false) "False" := by
  refine ⟨?_, ?_, ?_, ?_, ?_⟩
  · intro value
    exact countsAs_of_read rfl (Measurement.read_of_number value.number_shortText)
  · intro number hdigits
    obtain ⟨value, hnearest, hnumber⟩ := Measurement.exists_number_toString number
    have htext : (Cell.integer number).text? = .ok (some (toString number)) := by
      rw [Cell.text?, Cell.integerText, if_pos (show _ ≤ Refusal.digitLimit from hdigits)]
      rfl
    exact ⟨value, hnearest, countsAs_of_read htext (Measurement.read_of_number hnumber)⟩
  · intro text
    have htext : (Cell.bytes (Text.Utf8.encode text.toList)).text? = .ok (some text) := by
      rw [Cell.text?, Text.Utf8.decode_encode, String.ofList_toList]
    exact brought_congr htext rfl rfl
  · exact isNoNumber_of_read rfl (by decide)
  · exact isNoNumber_of_read rfl (by decide)

/-- An integer between two doubles that are equally near is reported as the even one. -/
theorem brought_first_cell_between :
    let cursor : Cursor := { columns := ["count"], form := .list, rows := [] }
    (Nat.toDigits 10 (9007199254740993 : Int).natAbs).length ≤ 4300 ∧ Clear cursor [] [] ∧
      ∃ reading, (brought cursor [] [] (.integer 9007199254740993)).result = .ok reading ∧
        reading.value = Decimal.toBinary64 ⟨false, 9007199254740992, 0⟩ := by
  intro cursor
  have hclear : Clear cursor [] [] := by
    refine ⟨List.cons_ne_nil _ _, rfl, ?_, ?_, rfl⟩
    · exact fun _ hcell => absurd hcell List.not_mem_nil
    · exact fun _ hrow => absurd hrow List.not_mem_nil
  obtain ⟨value, hnearest, hcounts⟩ := brought_first_cell.2.1 9007199254740993 (by decide)
  have hvalue : Decimal.toBinary64 ⟨false, 9007199254740993, 0⟩ = value := by
    rw [← Decimal.nearest_iff, Decimal.magnitude, zpow_zero, mul_one]
    exact hnearest
  have heven : Decimal.toBinary64 ⟨false, 9007199254740993, 0⟩ =
      Decimal.toBinary64 ⟨false, 9007199254740992, 0⟩ := by
    decide +kernel
  obtain ⟨reading, hreading⟩ := (hcounts.read cursor [] []).mpr hclear
  refine ⟨by decide, hclear, reading, hreading, ?_⟩
  rw [hcounts.reported cursor [] [] reading hreading, ← hvalue, heven]

end Cursor

end SqlGauge
