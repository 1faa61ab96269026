import SqlGauge.Proofs.Number.Exact
import SqlGauge.Proofs.Threshold.Reading

/-!
# Thresholds and measurements as exact numbers

Bounds and measurement are rounded to doubles one by one and compared then. As long as numerals
keep their order when they are rounded, a measurement within the exact bounds is within the rounded
ones: the main statement is `Threshold.alerts_of_within`.
-/

namespace SqlGauge

/-! ## Exact bounds -/

/-- The numeral of the number zero. -/
def Decimal.zero : Decimal := ⟨false, 0, 0⟩

/-- A range that is written with numerals, without a mark for its alert side, and the numerals of its
bounds. -/
inductive Written : (body : List Char) → (lower upper : Option Decimal) → Prop where
  | between {start stop : List Char} {lower upper : Decimal}
      (hstart : Decimal.read? start = some lower) (hstop : Decimal.read? stop = some upper) :
      Written (start ++ ':' :: stop) (some lower) (some upper)
  | atLeast {start : List Char} {lower : Decimal} (hstart : Decimal.read? start = some lower) :
      Written (start ++ [':']) (some lower) none
  | atMost {stop : List Char} {upper : Decimal} (hstop : Decimal.read? stop = some upper) :
      Written (':' :: stop) none (some upper)
  | below {stop : List Char} {upper : Decimal} (hstop : Decimal.read? stop = some upper) :
      Written ('~' :: ':' :: stop) none (some upper)
  | upTo {stop : List Char} {upper : Decimal} (hstop : Decimal.read? stop = some upper) :
      Written stop (some .zero) (some upper)

/-- The exact lower bound is at most the exact upper one. -/
def Ordered (lower upper : Option Decimal) : Prop :=
  ∀ a ∈ lower, ∀ b ∈ upper, a.value ≤ b.value

/-- The exact number lies within the exact bounds. -/
structure Within (lower upper : Option Decimal) (number : Decimal) : Prop where
  above : ∀ a ∈ lower, a.value ≤ number.value
  below : ∀ b ∈ upper, number.value ≤ b.value

/-- A lower bound as a double. -/
def lowerBound (lower : Option Decimal) : Binary64 :=
  lower.elim (.infinite true) Decimal.toBinary64

/-- An upper bound as a double. -/
def upperBound (upper : Option Decimal) : Binary64 :=
  upper.elim (.infinite false) Decimal.toBinary64

/-! ## Rounded bounds -/

theorem Threshold.readBound_of_numeral {token : List Char} {d : Decimal}
    (h : Decimal.read? token = some d) : readBound token = .ok d.toBinary64 := by
  unfold readBound
  rw [h]

theorem notMem_colon {token : List Char} {d : Decimal} (h : Decimal.read? token = some d) :
    ':' ∉ token :=
  Decimal.notMem_of_read? h (by decide)

namespace Threshold

theorem readStart_of_numeral {start : List Char} {d : Decimal}
    (h : Decimal.read? start = some d) : readStart start = .ok d.toBinary64 := by
  have hmark : start ≠ ['~'] := by
    rintro rfl
    cases h
  unfold readStart
  rw [if_neg (not_or.mpr ⟨Decimal.ne_nil_of_read? h, hmark⟩), readBound_of_numeral h]

theorem readStop_of_numeral {stop : List Char} {d : Decimal}
    (h : Decimal.read? stop = some d) : readStop stop = .ok d.toBinary64 := by
  unfold readStop
  rw [if_neg (Decimal.ne_nil_of_read? h), readBound_of_numeral h]

/-- Every written form gives the doubles next to its exact bounds. -/
theorem readBounds_written {body : List Char} {lower upper : Option Decimal}
    (h : Written body lower upper) : readBounds body = .ok (lowerBound lower, upperBound upper) := by
  cases h with
  | between hstart hstop =>
    have hsome := Decimal.ne_nil_of_read? hstart
    rw [readBounds_sides (notMem_colon hstart) (notMem_colon hstop), if_neg fun h => hsome h.1,
      readStart_of_numeral hstart, readStop_of_numeral hstop]
    rfl
  | atLeast hstart =>
    have hsome := Decimal.ne_nil_of_read? hstart
    rw [readBounds_sides (notMem_colon hstart) List.not_mem_nil, if_neg fun h => hsome h.1,
      readStart_of_numeral hstart]
    rfl
  | @atMost stop upper hstop =>
    have hsome := Decimal.ne_nil_of_read? hstop
    have hsides := readBounds_sides List.not_mem_nil (notMem_colon hstop)
    rw [if_neg fun h => hsome h.2, readStop_of_numeral hstop] at hsides
    exact hsides
  | @below stop upper hstop =>
    have hsides := @readBounds_sides ['~'] stop (by decide) (notMem_colon hstop)
    rw [if_neg fun h => List.cons_ne_nil _ _ h.1, readStop_of_numeral hstop] at hsides
    exact hsides
  | upTo hstop =>
    rw [readBounds_alone (notMem_colon hstop), if_neg (Decimal.ne_nil_of_read? hstop),
      readBound_of_numeral hstop]
    rfl

theorem head?_written {body : List Char} {lower upper : Option Decimal}
    (h : Written body lower upper) : body ≠ [] ∧ body.head? ≠ some '@' := by
  -- a numeral has no `@`, so it does not start with one either
  have hnumeral : ∀ {token : List Char} {d : Decimal} (rest : List Char),
      Decimal.read? token = some d → (token ++ rest ≠ [] ∧ (token ++ rest).head? ≠ some '@') := by
    intro token d rest h
    have hat : '@' ∉ token := Decimal.notMem_of_read? h (by decide)
    cases token with
    | nil => cases h
    | cons c token =>
      refine ⟨List.cons_ne_nil _ _, fun heq => ?_⟩
      cases heq
      exact hat List.mem_cons_self
  cases h with
  | between hstart hstop => exact hnumeral _ hstart
  | atLeast hstart => exact hnumeral _ hstart
  | atMost hstop => exact ⟨List.cons_ne_nil _ _, by simp⟩
  | below hstop => exact ⟨List.cons_ne_nil _ _, by simp⟩
  | upTo hstop =>
    have h := hnumeral [] hstop
    rwa [List.append_nil] at h

end Threshold

/-! ## Order -/

/-- The rank of a numeral's double lies between those of the infinities. -/
theorem Decimal.exists_rank (d : Decimal) :
    ∃ rank : Int, d.toBinary64.rank? = some rank ∧ -unitsLimit ≤ rank ∧ rank ≤ unitsLimit := by
  refine ⟨_, d.rank?_toBinary64, ?_, ?_⟩
  · unfold Binary64.signed
    split <;> omega
  · unfold Binary64.signed
    split <;> omega

theorem lowerBound_le {lower : Option Decimal} {number : Decimal}
    (h : ∀ a ∈ lower, a.value ≤ number.value) :
    (lowerBound lower).le number.toBinary64 = true := by
  cases lower with
  | some a => exact Decimal.le_toBinary64 (h a rfl)
  | none =>
    obtain ⟨rank, hrank, hlow, _⟩ := number.exists_rank
    exact Binary64.le_eq_true_iff.mpr ⟨_, _, rfl, hrank, hlow⟩

theorem le_upperBound {upper : Option Decimal} {number : Decimal}
    (h : ∀ b ∈ upper, number.value ≤ b.value) :
    number.toBinary64.le (upperBound upper) = true := by
  cases upper with
  | some b => exact Decimal.le_toBinary64 (h b rfl)
  | none =>
    obtain ⟨rank, hrank, _, hhigh⟩ := number.exists_rank
    exact Binary64.le_eq_true_iff.mpr ⟨_, _, hrank, rfl, hhigh⟩

theorem Binary64.lt_eq_false_of_le {x y : Binary64} (h : x.le y = true) : y.lt x = false := by
  obtain ⟨a, b, ha, hb, hle⟩ := Binary64.le_eq_true_iff.mp h
  simp only [Binary64.lt, ha, hb, decide_eq_false_iff_not]
  omega

/-- Exact bounds in order stay in order. -/
theorem bounds_ordered {lower upper : Option Decimal} (h : Ordered lower upper) :
    (upperBound upper).lt (lowerBound lower) = false := by
  apply Binary64.lt_eq_false_of_le
  cases lower with
  | some a => exact le_upperBound (h a rfl)
  | none =>
    cases upper with
    | some b => exact lowerBound_le fun _ hnone => nomatch hnone
    | none => exact Binary64.le_eq_true_iff.mpr ⟨-unitsLimit, unitsLimit, rfl, rfl, by omega⟩

/-! ## Alerts -/

theorem contains_of_within {range : Range} {lower upper : Option Decimal} {number : Decimal}
    (hlower : range.lower = lowerBound lower) (hupper : range.upper = upperBound upper)
    (h : Within lower upper number) : range.contains number.toBinary64 = true := by
  unfold Range.contains
  rw [hlower, hupper, lowerBound_le h.above, le_upperBound h.below]
  rfl

/-- A range whose exact bounds are in order can be read, with either alert side. A numeral within the
exact bounds is read as a number that raises no alert, and that raises one after an `@`. -/
theorem Threshold.alerts_of_within {spec text : String} {lower upper : Option Decimal}
    {number : Decimal} (written : Written spec.toList lower upper) (ordered : Ordered lower upper)
    (numeral : Decimal.read? text.toList = some number) :
    ∃ outside inside value, read spec = .ok outside ∧ read ("@" ++ spec) = .ok inside ∧
      Measurement.read (some text) = .ok value ∧
      (Within lower upper number →
        outside.alerts value = false ∧ inside.alerts value = true) := by
  have hbounds := readBounds_written written
  obtain ⟨hempty, hplain⟩ := head?_written written
  have hordered := bounds_ordered ordered
  refine ⟨_, _, _, read_of_bounds hempty hplain hbounds hordered,
    read_inverted_of_bounds hbounds hordered, Measurement.read_of_numeral numeral, ?_⟩
  intro within
  constructor
  · have hcontains := @contains_of_within ⟨false, lowerBound lower, upperBound upper, spec⟩
      lower upper number rfl rfl within
    simp only [alerts, Range.alerts, hcontains, Bool.false_eq_true, if_false, Bool.not_true]
  · have hcontains := @contains_of_within ⟨true, lowerBound lower, upperBound upper, "@" ++ spec⟩
      lower upper number rfl rfl within
    simp only [alerts, Range.alerts, hcontains, if_true]

/-- A bound and a number that differ and are rounded to the same double, and a bound that no double
reaches. -/
theorem Threshold.alerts_of_within_rounded :
    ∃ outside inside value, read "0.1:1e400" = .ok outside ∧ read "@0.1:1e400" = .ok inside ∧
      Measurement.read (some "0.1000000000000000055") = .ok value ∧
      outside.alerts value = false ∧ inside.alerts value = true := by
  have written : Written "0.1:1e400".toList (some ⟨false, 1, -1⟩) (some ⟨false, 1, 400⟩) :=
    @Written.between ['0', '.', '1'] ['1', 'e', '4', '0', '0'] _ _ (by decide) (by decide)
  have ordered : Ordered (some ⟨false, 1, -1⟩) (some ⟨false, 1, 400⟩) := by
    rintro _ ⟨⟩ _ ⟨⟩
    decide +kernel
  have numeral : Decimal.read? "0.1000000000000000055".toList =
    some ⟨false, 1000000000000000055, -19⟩ := by decide
  have within : Within (some ⟨false, 1, -1⟩) (some ⟨false, 1, 400⟩)
      ⟨false, 1000000000000000055, -19⟩ := by
    constructor
    · rintro _ ⟨⟩
      decide +kernel
    · rintro _ ⟨⟩
      decide +kernel
  obtain ⟨outside, inside, value, houtside, hinside, hvalue, halerts⟩ :=
    alerts_of_within written ordered numeral
  exact ⟨outside, inside, value, houtside, hinside, hvalue, halerts within⟩

end SqlGauge
