import SqlGauge.Proofs.Number.Grammar
import SqlGauge.Proofs.Threshold.Exact

/-!
# The grammar of thresholds

`Threshold.Denotes` says which texts are thresholds, and what each of them denotes: no text is no
threshold, a number is the range from zero to it, and otherwise there are two sides around one
colon, of which one may be left out. The bounds have to be in order as doubles, and an `@` before
all of it changes the alert side.

A text is read as a threshold just if it denotes it, and every other text fails as no threshold and
is kept in the failure (`Threshold.read_outcome`).
-/

namespace SqlGauge

/-! ## Sides and bodies -/

namespace Threshold

/-- What may stand before the colon, with the lower bound that it gives. -/
inductive Start : List Char → Binary64 → Prop where
  | absent : Start [] (.infinite true)
  | mark : Start ['~'] (.infinite true)
  | number {token : List Char} {d : Decimal} (numeral : Numeral token d) :
      Start token d.toBinary64

/-- What may stand after the colon, with the upper bound that it gives. -/
inductive Stop : List Char → Binary64 → Prop where
  | absent : Stop [] (.infinite false)
  | number {token : List Char} {d : Decimal} (numeral : Numeral token d) :
      Stop token d.toBinary64

/-- A range without the mark for its alert side, with its bounds. -/
inductive Body : List Char → Binary64 → Binary64 → Prop where
  | alone {token : List Char} {d : Decimal} (numeral : Numeral token d) :
      Body token (.zero false) d.toBinary64
  | sides {start stop : List Char} {lower upper : Binary64} (below : Start start lower)
      (above : Stop stop upper) (some : ¬ (start = [] ∧ stop = [])) :
      Body (start ++ ':' :: stop) lower upper

/-- A text, and the threshold that it denotes. -/
inductive Denotes : String → Threshold → Prop where
  | unset : Denotes "" unset
  | outside {spec : String} {lower upper : Binary64} (body : Body spec.toList lower upper)
      (ordered : lower.le upper = true) :
      Denotes spec (range { inverted := false, lower, upper, spec })
  | inside {spec : String} {text : List Char} {lower upper : Binary64}
      (mark : spec.toList = '@' :: text) (body : Body text lower upper)
      (ordered : lower.le upper = true) :
      Denotes spec (range { inverted := true, lower, upper, spec })

end Threshold

/-! ## Bounds that can be compared -/

namespace Binary64

theorem ne_nan_of_le {x y : Binary64} (h : x.le y = true) : x ≠ nan ∧ y ≠ nan := by
  constructor
  · rintro rfl
    rw [nan_le] at h
    cases h
  · rintro rfl
    rw [le_nan] at h
    cases h

/-- Of two numbers one is less than the other just if the other is not at most the one. -/
theorem lt_eq_false_iff_le {x y : Binary64} (hx : x ≠ nan) (hy : y ≠ nan) :
    y.lt x = false ↔ x.le y = true := by
  obtain ⟨a, ha⟩ := Option.ne_none_iff_exists'.mp (mt rank?_eq_none_iff.mp hx)
  obtain ⟨b, hb⟩ := Option.ne_none_iff_exists'.mp (mt rank?_eq_none_iff.mp hy)
  simp only [lt, le, ha, hb, decide_eq_false_iff_not, decide_eq_true_eq]
  omega

end Binary64

theorem Decimal.toBinary64_ne_nan (d : Decimal) : d.toBinary64 ≠ .nan := by
  obtain ⟨rank, hrank, _⟩ := d.exists_rank
  intro h
  rw [h] at hrank
  cases hrank

/-! ## The reader follows the grammar -/

namespace Threshold

theorem readBound_eq_ok_iff_numeral {token : List Char} {bound : Binary64} :
    readBound token = .ok bound ↔ ∃ d, Numeral token d ∧ d.toBinary64 = bound := by
  simp only [readBound_eq_ok_iff, Decimal.read?_eq_some_iff_numeral]

theorem readStart_eq_ok_iff {start : List Char} {lower : Binary64} :
    readStart start = .ok lower ↔ Start start lower := by
  constructor
  · intro h
    unfold readStart at h
    split at h
    · next hopen =>
      cases h
      rcases hopen with rfl | rfl
      · exact .absent
      · exact .mark
    · obtain ⟨d, hnumeral, rfl⟩ := readBound_eq_ok_iff_numeral.mp h
      exact .number hnumeral
  · intro h
    cases h with
    | absent => rfl
    | mark => rfl
    | number numeral => exact readStart_of_numeral (Decimal.read?_eq_some_iff_numeral.mpr numeral)

theorem readStop_eq_ok_iff {stop : List Char} {upper : Binary64} :
    readStop stop = .ok upper ↔ Stop stop upper := by
  constructor
  · intro h
    unfold readStop at h
    split at h
    · next hopen =>
      cases h
      cases hopen
      exact .absent
    · obtain ⟨d, hnumeral, rfl⟩ := readBound_eq_ok_iff_numeral.mp h
      exact .number hnumeral
  · intro h
    cases h with
    | absent => rfl
    | number numeral => exact readStop_of_numeral (Decimal.read?_eq_some_iff_numeral.mpr numeral)

/-- Beside the marks of a numeral, only the tilde stands before a colon. -/
theorem Start.notMem {c : Char} {start : List Char} {lower : Binary64} (h : Start start lower)
    (hmark : isMark c = false) (htilde : c ≠ '~') : c ∉ start := by
  cases h with
  | absent => exact List.not_mem_nil
  | mark => exact fun hc => htilde (List.mem_singleton.mp hc)
  | number numeral =>
    exact Decimal.notMem_of_read? (Decimal.read?_eq_some_iff_numeral.mpr numeral) hmark

theorem Stop.notMem {c : Char} {stop : List Char} {upper : Binary64} (h : Stop stop upper)
    (hmark : isMark c = false) : c ∉ stop := by
  cases h with
  | absent => exact List.not_mem_nil
  | number numeral =>
    exact Decimal.notMem_of_read? (Decimal.read?_eq_some_iff_numeral.mpr numeral) hmark

theorem readBounds_eq_ok_iff_body {text : List Char} {lower upper : Binary64} :
    readBounds text = .ok (lower, upper) ↔ Body text lower upper := by
  rw [readBounds_eq_ok_iff]
  constructor
  · rintro (⟨start, stop, rfl, _, _, hsome, hlower, hupper⟩ | ⟨_, _, rfl, hupper⟩)
    · exact .sides (readStart_eq_ok_iff.mp hlower) (readStop_eq_ok_iff.mp hupper) hsome
    · obtain ⟨d, hnumeral, rfl⟩ := readBound_eq_ok_iff_numeral.mp hupper
      exact .alone hnumeral
  · intro h
    cases h with
    | sides below above hsome =>
      exact .inl ⟨_, _, rfl, below.notMem (by decide) (by decide), above.notMem (by decide), hsome,
        readStart_eq_ok_iff.mpr below, readStop_eq_ok_iff.mpr above⟩
    | alone numeral =>
      have hread := Decimal.read?_eq_some_iff_numeral.mpr numeral
      exact .inr ⟨notMem_colon hread, Decimal.ne_nil_of_read? hread, rfl,
        readBound_of_numeral hread⟩

/-- No body starts with the mark for the alert side. -/
theorem Body.notMem_at {text : List Char} {lower upper : Binary64} (h : Body text lower upper) :
    '@' ∉ text := by
  cases h with
  | alone numeral =>
    exact Decimal.notMem_of_read? (Decimal.read?_eq_some_iff_numeral.mpr numeral) (by decide)
  | sides below above _ =>
    rw [List.mem_append, List.mem_cons, not_or, not_or]
    exact ⟨below.notMem (by decide) (by decide), by decide, above.notMem (by decide)⟩

theorem Body.ne_nil {text : List Char} {lower upper : Binary64} (h : Body text lower upper) :
    text ≠ [] := by
  cases h with
  | alone numeral => exact Decimal.ne_nil_of_read? (Decimal.read?_eq_some_iff_numeral.mpr numeral)
  | sides => exact List.append_ne_nil_of_right_ne_nil _ (List.cons_ne_nil _ _)

theorem Body.ne_nan {text : List Char} {lower upper : Binary64} (h : Body text lower upper) :
    lower ≠ .nan ∧ upper ≠ .nan := by
  cases h with
  | @alone _ d _ => exact ⟨Binary64.noConfusion, d.toBinary64_ne_nan⟩
  | sides below above _ =>
    constructor
    · cases below with
      | absent => exact Binary64.noConfusion
      | mark => exact Binary64.noConfusion
      | @number _ d _ => exact d.toBinary64_ne_nan
    · cases above with
      | absent => exact Binary64.noConfusion
      | @number _ d _ => exact d.toBinary64_ne_nan

/-- A text is read as a threshold just if it denotes it. -/
theorem read_eq_ok_iff_denotes {spec : String} {threshold : Threshold} :
    read spec = .ok threshold ↔ Denotes spec threshold := by
  rw [read_eq_ok_iff]
  constructor
  · rintro (⟨rfl, rfl⟩ | ⟨_, lower, upper, hbounds, hordered, rfl⟩)
    · exact .unset
    · have hbody := readBounds_eq_ok_iff_body.mp hbounds
      have hle := (Binary64.lt_eq_false_iff_le hbody.ne_nan.1 hbody.ne_nan.2).mp hordered
      unfold bodyOf at hbody
      split at hbody
      · next hat =>
        obtain ⟨text, hmark⟩ := List.head?_eq_some_iff.mp hat
        rw [hmark] at hbody
        simp only [hat, decide_true]
        exact .inside hmark hbody hle
      · next hat =>
        simp only [hat, decide_false]
        exact .outside hbody hle
  · intro h
    cases h with
    | unset => exact .inl ⟨rfl, rfl⟩
    | @outside spec lower upper body ordered =>
      have hat : spec.toList.head? ≠ some '@' :=
        fun h => body.notMem_at (List.mem_of_head? h)
      have hbodyOf : bodyOf spec = spec.toList := if_neg hat
      refine .inr ⟨?_, lower, upper, ?_, ?_, ?_⟩
      · rintro rfl
        exact body.ne_nil rfl
      · rw [hbodyOf]
        exact readBounds_eq_ok_iff_body.mpr body
      · exact (Binary64.lt_eq_false_iff_le body.ne_nan.1 body.ne_nan.2).mpr ordered
      · simp only [hat, decide_false]
    | @inside spec text lower upper mark body ordered =>
      have hat : spec.toList.head? = some '@' := by
        rw [mark]
        rfl
      have hbodyOf : bodyOf spec = text := by
        unfold bodyOf
        rw [if_pos hat, mark]
        rfl
      refine .inr ⟨?_, lower, upper, ?_, ?_, ?_⟩
      · rintro rfl
        cases hat
      · rw [hbodyOf]
        exact readBounds_eq_ok_iff_body.mpr body
      · exact (Binary64.lt_eq_false_iff_le body.ne_nan.1 body.ne_nan.2).mpr ordered
      · simp only [hat, decide_true]

/-- A threshold is described by the text it was read from. -/
theorem Denotes.text_eq {spec : String} {threshold : Threshold} (h : Denotes spec threshold) :
    threshold.text = spec := by
  have hrange : ∀ {inverted : Bool} {lower upper : Binary64}, spec ≠ "" →
      text (range { inverted, lower, upper, spec }) = spec := by
    intro inverted lower upper hspec
    unfold text Range.text
    exact if_neg hspec
  cases h with
  | unset => rfl
  | outside body _ =>
    refine hrange ?_
    rintro rfl
    exact body.ne_nil rfl
  | inside mark _ _ =>
    refine hrange ?_
    rintro rfl
    cases mark

theorem Denotes.ne_nan {spec : String} {r : Range} (h : Denotes spec (range r)) :
    r.lower ≠ .nan ∧ r.upper ≠ .nan := by
  cases h with
  | outside _ ordered => exact Binary64.ne_nan_of_le ordered
  | inside _ _ ordered => exact Binary64.ne_nan_of_le ordered

/-- A text is read as a threshold just if it denotes it, and then the threshold is described by the
text and its bounds are numbers. Any other text fails as no threshold, with the text kept. -/
theorem read_outcome (spec : String) :
    (∀ threshold, (read spec).mapError (·.failure spec) = .ok threshold ↔ Denotes spec threshold) ∧
      (∀ threshold, Denotes spec threshold → threshold.text = spec) ∧
      (∀ r, Denotes spec (range r) → r.lower ≠ .nan ∧ r.upper ≠ .nan) ∧
      ((¬ ∃ threshold, Denotes spec threshold) ↔
        ∃ message, (read spec).mapError (·.failure spec) =
          .error { cause := .threshold message spec }) := by
  refine ⟨fun _ => mapError_eq_ok_iff.trans read_eq_ok_iff_denotes, fun _ h => h.text_eq,
    fun _ h => h.ne_nan, ?_⟩
  constructor
  · intro hnone
    cases hread : read spec with
    | ok threshold => exact absurd ⟨threshold, read_eq_ok_iff_denotes.mp hread⟩ hnone
    | error flaw => exact ⟨flaw.message, rfl⟩
  · rintro ⟨message, herror⟩ ⟨threshold, h⟩
    rw [read_eq_ok_iff_denotes.mpr h] at herror
    cases herror

end Threshold

end SqlGauge
