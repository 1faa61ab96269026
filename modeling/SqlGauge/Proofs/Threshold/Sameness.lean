import SqlGauge.Proofs.Threshold.Grammar

/-!
# When two thresholds are the same

A range that was read has bounds that are numbers in order (`Threshold.Denotes.proper`), so it contains
both of them. Hence two such ranges contain the same doubles just if they have equal bounds
(`Range.contains_eq_iff`), and the alert side shows at what is not a number, which no range contains
(`Range.alerts_nan`).

A range raises an alert somewhere, the absence of a threshold nowhere. So the thresholds that two texts
are read as are the same just if they agree on every double (`Threshold.same_read_iff`).
-/

namespace SqlGauge

/-! ## The order of doubles -/

namespace Binary64

theorem le_self {x : Binary64} (h : x ≠ nan) : x.le x = true := by
  obtain ⟨a, ha⟩ := Option.ne_none_iff_exists'.mp (mt rank?_eq_none_iff.mp h)
  exact le_eq_true_iff.mpr ⟨a, a, ha, ha, Int.le_refl a⟩

theorem le_trans {x y z : Binary64} (h : x.le y = true) (h' : y.le z = true) : x.le z = true := by
  obtain ⟨a, b, ha, hb, hab⟩ := le_eq_true_iff.mp h
  obtain ⟨b', c, hb', hc, hbc⟩ := le_eq_true_iff.mp h'
  cases hb.symm.trans hb'
  exact le_eq_true_iff.mpr ⟨a, c, ha, hc, Int.le_trans hab hbc⟩

/-- Two numbers are equal just if neither is less. -/
theorem equals_eq_true_iff {x y : Binary64} :
    x.equals y = true ↔ x.le y = true ∧ y.le x = true := by
  unfold equals le
  cases x.rank? with
  | none => simp
  | some a =>
    cases y.rank? with
    | none => simp
    | some b =>
      simp only [decide_eq_true_eq]
      omega

theorem equals_self {x : Binary64} (h : x ≠ nan) : x.equals x = true :=
  equals_eq_true_iff.mpr ⟨le_self h, le_self h⟩

end Binary64

/-! ## Ranges -/

namespace Range

/-- The bounds are numbers, and in order. -/
def Proper (range : Range) : Prop :=
  range.lower.le range.upper = true

theorem contains_eq_true_iff {range : Range} {value : Binary64} :
    range.contains value = true ↔ range.lower.le value = true ∧ value.le range.upper = true := by
  unfold contains
  rw [Bool.and_eq_true]

theorem Proper.contains_lower {range : Range} (h : range.Proper) :
    range.contains range.lower = true :=
  contains_eq_true_iff.mpr ⟨Binary64.le_self (Binary64.ne_nan_of_le h).1, h⟩

theorem Proper.contains_upper {range : Range} (h : range.Proper) :
    range.contains range.upper = true :=
  contains_eq_true_iff.mpr ⟨h, Binary64.le_self (Binary64.ne_nan_of_le h).2⟩

/-- Of two ranges with equal bounds each contains what the other one does. -/
theorem contains_of_equals {a b : Range} {value : Binary64}
    (lower : a.lower.equals b.lower = true) (upper : a.upper.equals b.upper = true)
    (h : a.contains value = true) : b.contains value = true := by
  obtain ⟨habove, hbelow⟩ := contains_eq_true_iff.mp h
  have hlower := (Binary64.equals_eq_true_iff.mp lower).2
  have hupper := (Binary64.equals_eq_true_iff.mp upper).1
  exact contains_eq_true_iff.mpr
    ⟨Binary64.le_trans hlower habove, Binary64.le_trans hbelow hupper⟩

/-- Ranges contain the same numbers just if their bounds are equal: each of them has to contain the
bounds of the other one. -/
theorem contains_eq_iff {a b : Range} (ha : a.Proper) (hb : b.Proper) :
    (∀ value, a.contains value = b.contains value) ↔
      a.lower.equals b.lower = true ∧ a.upper.equals b.upper = true := by
  constructor
  · intro h
    obtain ⟨hlower, _⟩ := contains_eq_true_iff.mp ((h b.lower).trans hb.contains_lower)
    obtain ⟨hlower', _⟩ := contains_eq_true_iff.mp ((h a.lower).symm.trans ha.contains_lower)
    obtain ⟨_, hupper⟩ := contains_eq_true_iff.mp ((h b.upper).trans hb.contains_upper)
    obtain ⟨_, hupper'⟩ := contains_eq_true_iff.mp ((h a.upper).symm.trans ha.contains_upper)
    exact ⟨Binary64.equals_eq_true_iff.mpr ⟨hlower, hlower'⟩,
      Binary64.equals_eq_true_iff.mpr ⟨hupper', hupper⟩⟩
  · rintro ⟨hlower, hupper⟩ value
    have hlower' := Binary64.equals_eq_true_iff.mpr (Binary64.equals_eq_true_iff.mp hlower).symm
    have hupper' := Binary64.equals_eq_true_iff.mpr (Binary64.equals_eq_true_iff.mp hupper).symm
    rw [Bool.eq_iff_iff]
    exact ⟨contains_of_equals hlower hupper, contains_of_equals hlower' hupper'⟩

/-- What is not a number raises an alert just if the alert side is outside. -/
theorem alerts_nan (range : Range) : range.alerts .nan = !range.inverted := by
  unfold alerts
  rw [contains_nan]
  cases range.inverted <;> rfl

theorem same_eq_true_iff {a b : Range} :
    a.same b = true ↔ a.inverted = b.inverted ∧
      a.lower.equals b.lower = true ∧ a.upper.equals b.upper = true := by
  unfold same
  rw [Bool.and_eq_true, Bool.and_eq_true, beq_iff_eq, and_assoc]

/-- Ranges with the same alert side agree where they contain the same. -/
theorem alerts_eq_iff {a b : Range} (h : a.inverted = b.inverted) (value : Binary64) :
    a.alerts value = b.alerts value ↔ a.contains value = b.contains value := by
  unfold alerts
  rw [h]
  cases b.inverted with
  | false => exact Bool.not_inj_iff
  | true => exact Iff.rfl

theorem same_iff_forall_alerts {a b : Range} (ha : a.Proper) (hb : b.Proper) :
    a.same b = true ↔ ∀ value, a.alerts value = b.alerts value := by
  rw [same_eq_true_iff, ← contains_eq_iff ha hb]
  constructor
  · rintro ⟨hside, hcontains⟩ value
    exact (alerts_eq_iff hside value).mpr (hcontains value)
  · intro h
    have hside : a.inverted = b.inverted := by
      have hnan := h .nan
      rw [alerts_nan, alerts_nan] at hnan
      exact Bool.not_inj hnan
    exact ⟨hside, fun value => (alerts_eq_iff hside value).mp (h value)⟩

/-- A range raises an alert at what is not a number, or else at its own bounds. -/
theorem Proper.exists_alerts {range : Range} (h : range.Proper) :
    ∃ value, range.alerts value = true := by
  cases hside : range.inverted with
  | false =>
    refine ⟨.nan, ?_⟩
    rw [alerts_nan, hside]
    rfl
  | true =>
    refine ⟨range.lower, ?_⟩
    unfold alerts
    rw [hside]
    exact h.contains_lower

end Range

/-! ## Thresholds -/

namespace Threshold

theorem Denotes.proper {spec : String} {r : Range} (h : Denotes spec (range r)) : r.Proper := by
  cases h with
  | outside _ ordered => exact ordered
  | inside _ _ ordered => exact ordered

/-- The absence of a threshold is told from any range by an alert. -/
theorem not_forall_alerts_unset {r : Range} (h : r.Proper) :
    ¬ ∀ value, (range r).alerts value = unset.alerts value := by
  intro hsame
  obtain ⟨value, halert⟩ := h.exists_alerts
  exact Bool.false_ne_true ((hsame value).symm.trans halert)

/-- Two texts are read as the same threshold just if what they are read as agrees on every double
whether it raises an alert. -/
theorem same_read_iff {a b : String} {first second : Threshold} (hfirst : read a = .ok first)
    (hsecond : read b = .ok second) :
    first.same second = true ↔ ∀ value, first.alerts value = second.alerts value := by
  have hfirst := read_eq_ok_iff_denotes.mp hfirst
  have hsecond := read_eq_ok_iff_denotes.mp hsecond
  cases first with
  | unset =>
    cases second with
    | unset => exact iff_of_true rfl fun _ => rfl
    | range r =>
      refine iff_of_false Bool.false_ne_true fun h => ?_
      exact not_forall_alerts_unset hsecond.proper fun value => (h value).symm
  | range r =>
    cases second with
    | unset => exact iff_of_false Bool.false_ne_true (not_forall_alerts_unset hfirst.proper)
    | range s => exact Range.same_iff_forall_alerts hfirst.proper hsecond.proper

/-- A lower bound that is written as a negative zero, and an upper one that no double reaches, against
a bound that is zero and one that is left out. -/
theorem same_read_iff_signed_zero :
    ∃ first second, read "-0:1e400" = .ok first ∧ read "0:" = .ok second ∧
      first.same second = true ∧ first ≠ second ∧
      (first.same second = true ↔ ∀ value, first.alerts value = second.alerts value) := by
  have hfirst : read "-0:1e400" =
    .ok (.range ⟨false, .zero true, .infinite false, "-0:1e400"⟩) := by decide +kernel
  have hsecond : read "0:" = .ok (.range ⟨false, .zero false, .infinite false, "0:"⟩) := by
    decide +kernel
  exact ⟨_, _, hfirst, hsecond, by decide +kernel, by decide +kernel, same_read_iff hfirst hsecond⟩

end Threshold

end SqlGauge
