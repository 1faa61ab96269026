import SqlGauge.Proofs.Number.Nearest
import SqlGauge.Proofs.Threshold.Spellings

/-!
# Infinite bounds

A bound that is left out is infinite. So is one whose numeral is beyond every finite double: it is rounded
to the infinity of its sign (`Decimal.toBinary64_eq_infinite_iff`). There is no third way
(`Threshold.infinite_iff_of_read`).

`Threshold.BoundTexts` says which texts the bounds of a range have, whatever they are read as.
-/

namespace SqlGauge

/-- A numeral becomes an infinity just if it is beyond the greatest finite double by half a step. -/
theorem Decimal.toBinary64_eq_infinite_iff {d : Decimal} {negative : Bool} :
    d.toBinary64 = .infinite negative ↔ d.negative = negative ∧ Binary64.overflow ≤ d.magnitude := by
  rw [← Decimal.nearest_iff]
  constructor
  · intro h
    cases h with
    | infinite beyond => exact ⟨rfl, beyond⟩
  · rintro ⟨rfl, hbeyond⟩
    exact .infinite hbeyond

namespace Threshold

/-! ## The texts of the bounds -/

/-- The texts of both bounds of a range, without the mark for its alert side. A number alone is the text of
the upper bound, and the lower one is then zero. -/
inductive BoundTexts : List Char → List Char → List Char → Prop where
  | alone {text : List Char} (some : text ≠ []) (plain : ':' ∉ text) : BoundTexts text ['0'] text
  | sides {start stop : List Char} (before : ':' ∉ start) (after : ':' ∉ stop) :
      BoundTexts (start ++ ':' :: stop) start stop

variable {start stop : List Char}

/-- The bounds are read one by one. -/
theorem BoundTexts.readBounds_eq {body : List Char} (h : BoundTexts body start stop) :
    readBounds body =
      if start = [] ∧ stop = [] then .error .noBounds
      else do
        let lower ← readStart start
        let upper ← readStop stop
        return (lower, upper) := by
  cases h with
  | alone some plain =>
    rw [← readBounds_zero some plain]
    exact @readBounds_sides ['0'] _ (by decide) plain
  | sides before after => exact readBounds_sides before after

/-- What is read as a range has texts for its bounds. -/
theorem exists_boundTexts {spec : String} {r : Range} (h : read spec = .ok (range r)) :
    ∃ start stop, BoundTexts (bodyOf spec) start stop := by
  rcases read_eq_ok_iff.mp h with ⟨_, hunset⟩ | ⟨_, lower, upper, hbounds, _⟩
  · cases hunset
  · rcases readBounds_eq_ok_iff.mp hbounds with ⟨start, stop, hbody, hstart, hstop, _⟩ | ⟨hcolon, hsome, _⟩
    · exact ⟨start, stop, hbody ▸ .sides hstart hstop⟩
    · exact ⟨_, _, .alone hsome hcolon⟩

theorem BoundTexts.readSides {spec : String} {r : Range} (texts : BoundTexts (bodyOf spec) start stop)
    (h : read spec = .ok (range r)) : readStart start = .ok r.lower ∧ readStop stop = .ok r.upper := by
  rcases read_eq_ok_iff.mp h with ⟨_, hunset⟩ | ⟨_, lower, upper, hbounds, _, hrange⟩
  · cases hunset
  cases hrange
  rw [texts.readBounds_eq] at hbounds
  split at hbounds
  · cases hbounds
  · obtain ⟨low, hlow, hbounds⟩ := bind_eq_ok_iff.mp hbounds
    obtain ⟨high, hhigh, hbounds⟩ := bind_eq_ok_iff.mp hbounds
    cases hbounds
    exact ⟨hlow, hhigh⟩

/-! ## Infinite bounds -/

/-- The text is a numeral of this sign beyond every finite double. -/
def Overflows (token : List Char) (negative : Bool) : Prop :=
  ∃ d, Numeral token d ∧ d.negative = negative ∧ Binary64.overflow ≤ d.magnitude

theorem toBinary64_eq_infinite_iff_overflows {token : List Char} {d : Decimal} (numeral : Numeral token d)
    {negative : Bool} : d.toBinary64 = .infinite negative ↔ Overflows token negative := by
  rw [Decimal.toBinary64_eq_infinite_iff]
  constructor
  · exact fun h => ⟨d, numeral, h⟩
  · rintro ⟨d', hnumeral, h⟩
    -- a text is a numeral of one number only
    have hread := Decimal.read?_eq_some_iff_numeral.mpr numeral
    rw [Decimal.read?_eq_some_iff_numeral.mpr hnumeral] at hread
    cases hread
    exact h

theorem not_overflows_of_not_numeral {token : List Char} (h : Decimal.read? token = none)
    (negative : Bool) : ¬ Overflows token negative := by
  rintro ⟨d, numeral, _⟩
  rw [Decimal.read?_eq_some_iff_numeral.mpr numeral] at h
  cases h

theorem Start.eq_infinite_iff {lower : Binary64} (h : Start start lower) (negative : Bool) :
    lower = .infinite negative ↔
      (start = [] ∨ start = ['~']) ∧ negative = true ∨ Overflows start negative := by
  cases h with
  | absent =>
    rw [or_iff_left (not_overflows_of_not_numeral rfl negative)]
    simp [eq_comm]
  | mark =>
    rw [or_iff_left (not_overflows_of_not_numeral rfl negative)]
    simp [eq_comm]
  | @number _ d numeral =>
    have hread := Decimal.read?_eq_some_iff_numeral.mpr numeral
    have hwritten : ¬ ((start = [] ∨ start = ['~']) ∧ negative = true) := by
      rintro ⟨rfl | rfl, _⟩ <;> cases hread
    rw [or_iff_right hwritten, toBinary64_eq_infinite_iff_overflows numeral]

theorem Stop.eq_infinite_iff {upper : Binary64} (h : Stop stop upper) (negative : Bool) :
    upper = .infinite negative ↔ stop = [] ∧ negative = false ∨ Overflows stop negative := by
  cases h with
  | absent =>
    rw [or_iff_left (not_overflows_of_not_numeral rfl negative)]
    simp [eq_comm]
  | @number _ d numeral =>
    have hwritten : ¬ (stop = [] ∧ negative = false) :=
      fun h => Decimal.ne_nil_of_read? (Decimal.read?_eq_some_iff_numeral.mpr numeral) h.1
    rw [or_iff_right hwritten, toBinary64_eq_infinite_iff_overflows numeral]

/-- A bound of a range that was read is infinite just if it is left out, or if its numeral is beyond every
finite double. The first gives a lower bound below all numbers or an upper one above them, the second the
infinity of the sign that was written. -/
theorem infinite_iff_of_read {spec : String} {r : Range} (h : read spec = .ok (range r)) :
    (∃ start stop, BoundTexts (bodyOf spec) start stop) ∧
      ∀ start stop, BoundTexts (bodyOf spec) start stop → ∀ negative,
        (r.lower = .infinite negative ↔
          (start = [] ∨ start = ['~']) ∧ negative = true ∨ Overflows start negative) ∧
        (r.upper = .infinite negative ↔ stop = [] ∧ negative = false ∨ Overflows stop negative) := by
  refine ⟨exists_boundTexts h, fun start stop texts negative => ?_⟩
  obtain ⟨hlower, hupper⟩ := texts.readSides h
  exact ⟨(readStart_eq_ok_iff.mp hlower).eq_infinite_iff negative,
    (readStop_eq_ok_iff.mp hupper).eq_infinite_iff negative⟩

/-- Both bounds are infinite: the lower one by its numeral, the upper one because it is left out. -/
theorem infinite_iff_of_read_negative :
    ∃ r, read "-1e400:" = .ok (range r) ∧ BoundTexts (bodyOf "-1e400:") "-1e400".toList [] ∧
      r.lower = .infinite true ∧ Overflows "-1e400".toList true ∧ r.upper = .infinite false := by
  have hread : read "-1e400:" = .ok (range ⟨false, .infinite true, .infinite false, "-1e400:"⟩) := by
    decide +kernel
  have htexts : BoundTexts (bodyOf "-1e400:") "-1e400".toList [] :=
    @BoundTexts.sides "-1e400".toList [] (by decide) (by decide)
  have hlower := ((infinite_iff_of_read hread).2 _ _ htexts true).1
  exact ⟨_, hread, htexts, rfl, (hlower.mp rfl).resolve_left (by decide), rfl⟩

/-- A bound that is written may be infinite. -/
theorem not_omitted_overflow :
    ¬ ∀ spec r, read spec = .ok (range r) → ∀ start stop, BoundTexts (bodyOf spec) start stop →
      ∀ negative, (r.lower = .infinite negative → (start = [] ∨ start = ['~']) ∧ negative = true) ∧
        (r.upper = .infinite negative → stop = [] ∧ negative = false) := by
  intro h
  have hread : read "1e400" = .ok (range ⟨false, .zero false, .infinite false, "1e400"⟩) := by
    decide +kernel
  have htexts : BoundTexts (bodyOf "1e400") ['0'] "1e400".toList := .alone (by decide) (by decide)
  exact absurd ((h _ _ hread _ _ htexts false).2 rfl).1 (by decide)

end Threshold

end SqlGauge
