import Mathlib.Tactic
import SqlGauge.Proofs.Number.Rounding
import SqlGauge.Decimal.Basic

/-!
# The exact number of a numeral

`Decimal.value` is the rational number that a numeral denotes. The double nearest to it is found
without forming powers of ten for numerals far out of range; these shortcuts do not show, and the
rank of the double is the rounded magnitude of the numeral, held back at the limit of the range
(`Decimal.rank?_toBinary64`). So numerals keep their order when they become doubles, however long
they are and however far they lie apart (`Decimal.le_toBinary64`).
-/

namespace SqlGauge

namespace Decimal

/-! ## Values -/

/-- The number that a numeral denotes, without its sign. -/
def magnitude (d : Decimal) : ℚ :=
  d.coefficient * 10 ^ d.exponent

/-- The number that a numeral denotes. -/
def value (d : Decimal) : ℚ :=
  if d.negative then -d.magnitude else d.magnitude

theorem magnitude_nonneg (d : Decimal) : 0 ≤ d.magnitude := by
  unfold magnitude
  positivity

/-- Only zero has no magnitude. -/
theorem coefficient_eq_zero_of_magnitude {d : Decimal} (h : d.magnitude = 0) :
    d.coefficient = 0 := by
  unfold magnitude at h
  rcases mul_eq_zero.mp h with hcoefficient | hpower
  · exact_mod_cast hcoefficient
  · exact absurd hpower (by positivity)

/-! ## Units -/

/-- The units of a numeral are those of a quotient of whole numbers. -/
theorem exists_units_eq (d : Decimal) :
    ∃ num den, 0 < den ∧ units d.coefficient d.exponent = Binary64.roundUnits num den ∧
      (num : ℚ) / den = d.magnitude * unitsPerOne := by
  obtain ⟨negative, coefficient, exponent⟩ := d
  cases exponent with
  | ofNat exponent =>
    refine ⟨coefficient * 10 ^ exponent * unitsPerOne, 1, Nat.one_pos, rfl, ?_⟩
    show ((coefficient * 10 ^ exponent * unitsPerOne : ℕ) : ℚ) / (1 : ℕ) =
      coefficient * 10 ^ (exponent : ℤ) * unitsPerOne
    rw [Nat.cast_one, div_one, Nat.cast_mul, Nat.cast_mul, Nat.cast_pow, zpow_natCast]
    rfl
  | negSucc exponent =>
    refine ⟨coefficient * unitsPerOne, 10 ^ (exponent + 1), Nat.pow_pos (by decide), rfl, ?_⟩
    show ((coefficient * unitsPerOne : ℕ) : ℚ) / (10 ^ (exponent + 1) : ℕ) =
      coefficient * 10 ^ (Int.negSucc exponent) * unitsPerOne
    rw [Nat.cast_mul, Nat.cast_pow, zpow_negSucc, Nat.cast_ofNat]
    ring

/-- A numeral of smaller magnitude has no more units. -/
theorem units_mono {a b : Decimal} (h : a.magnitude ≤ b.magnitude) :
    units a.coefficient a.exponent ≤ units b.coefficient b.exponent := by
  obtain ⟨num, den, hden, hunits, hratio⟩ := a.exists_units_eq
  obtain ⟨num', den', hden', hunits', hratio'⟩ := b.exists_units_eq
  rw [hunits, hunits']
  refine Binary64.roundUnits_mono hden hden' ?_
  have hle : (num : ℚ) / den ≤ num' / den' := by
    rw [hratio, hratio']
    exact mul_le_mul_of_nonneg_right h (Nat.cast_nonneg _)
  rw [div_le_div_iff₀ (by exact_mod_cast hden) (by exact_mod_cast hden')] at hle
  exact_mod_cast hle

theorem units_of_coefficient_eq_zero {d : Decimal} (h : d.coefficient = 0) :
    units d.coefficient d.exponent = 0 := by
  obtain ⟨num, den, hden, hunits, hratio⟩ := d.exists_units_eq
  rw [hunits]
  apply Binary64.roundUnits_eq_zero
  have hzero : (num : ℚ) / den = 0 := by
    rw [hratio, magnitude, h, Nat.cast_zero, zero_mul, zero_mul]
  rcases div_eq_zero_iff.mp hzero with hnum | hnone
  · have : num = 0 := by exact_mod_cast hnum
    omega
  · have : den = 0 := by exact_mod_cast hnone
    omega

/-! ## Numerals far out of range -/

/-- Half a unit is far above a numeral that is found to be tiny. -/
theorem two_mul_unitsPerOne_lt : 2 * unitsPerOne < 10 ^ 331 := by
  decide +kernel

/-- The limit of the range is far below a numeral that is found to be huge. -/
theorem unitsLimit_le : unitsLimit ≤ 10 ^ 401 * unitsPerOne := by
  decide +kernel

theorem units_of_isTiny {d : Decimal} (h : d.isTiny) : units d.coefficient d.exponent = 0 := by
  obtain ⟨num, den, hden, hunits, hratio⟩ := d.exists_units_eq
  rw [hunits]
  apply Binary64.roundUnits_eq_zero
  have hexponent : d.exponent ≤ -332 - d.coefficient.log2 := by
    have hsmall := of_decide_eq_true h
    omega
  -- a number has no more decimal digits than binary ones
  have hcoefficient : (d.coefficient : ℚ) ≤ 10 ^ (d.coefficient.log2 + 1) := by
    have hbits : d.coefficient < 2 ^ (d.coefficient.log2 + 1) := Nat.lt_log2_self
    have hten : 2 ^ (d.coefficient.log2 + 1) ≤ 10 ^ (d.coefficient.log2 + 1) :=
      Nat.pow_le_pow_left (by decide) _
    exact_mod_cast Nat.le_of_lt (Nat.lt_of_lt_of_le hbits hten)
  have hmagnitude : d.magnitude ≤ 10 ^ (-331 : ℤ) := by
    calc d.magnitude ≤ 10 ^ (d.coefficient.log2 + 1) * 10 ^ (-332 - d.coefficient.log2 : ℤ) := by
          unfold magnitude
          gcongr
          norm_num
      _ = 10 ^ (-331 : ℤ) := by
          rw [← zpow_natCast, ← zpow_add₀ (by norm_num)]
          congr 1
          push_cast
          ring
  have hunit : 2 * (unitsPerOne : ℚ) < 10 ^ 331 := by
    exact_mod_cast two_mul_unitsPerOne_lt
  have hsmall : 2 * ((num : ℚ) / den) < 1 := by
    rw [hratio]
    have hpos : (0 : ℚ) ≤ unitsPerOne := Nat.cast_nonneg _
    generalize (unitsPerOne : ℚ) = unit at hunit hpos
    calc 2 * (d.magnitude * unit) ≤ 2 * (10 ^ (-331 : ℤ) * unit) := by gcongr
      _ = 10 ^ (-331 : ℤ) * (2 * unit) := by ring
      _ < 10 ^ (-331 : ℤ) * 10 ^ 331 := by gcongr
      _ = 1 := by rw [← zpow_natCast, ← zpow_add₀ (by norm_num)]; norm_num
  rw [← mul_div_assoc, div_lt_one (by exact_mod_cast hden)] at hsmall
  exact_mod_cast hsmall

theorem units_of_isHuge {d : Decimal} (hcoefficient : d.coefficient ≠ 0) (h : d.isHuge) :
    unitsLimit ≤ units d.coefficient d.exponent := by
  obtain ⟨num, den, hden, hunits, hratio⟩ := d.exists_units_eq
  rw [hunits]
  apply Binary64.unitsLimit_le_roundUnits hden
  have hexponent : (401 : ℤ) ≤ d.exponent := of_decide_eq_true h
  have hone : (1 : ℚ) ≤ d.coefficient := by
    exact_mod_cast Nat.one_le_iff_ne_zero.mpr hcoefficient
  have hmagnitude : (10 : ℚ) ^ 401 ≤ d.magnitude := by
    calc (10 : ℚ) ^ 401 = 1 * 10 ^ (401 : ℤ) := by rw [one_mul]; exact (zpow_natCast 10 401).symm
      _ ≤ d.magnitude := by
          unfold magnitude
          gcongr
          norm_num
  have hlimit : (unitsLimit : ℚ) ≤ 10 ^ 401 * unitsPerOne := by
    exact_mod_cast unitsLimit_le
  have hlarge : (unitsLimit : ℚ) ≤ num / den := by
    rw [hratio]
    exact hlimit.trans (mul_le_mul_of_nonneg_right hmagnitude (Nat.cast_nonneg _))
  rw [le_div_iff₀ (by exact_mod_cast hden)] at hlarge
  exact_mod_cast hlarge

/-! ## Doubles -/

/-- The shortcuts for numerals far out of range do not show. -/
theorem toBinary64_eq_ofUnits (d : Decimal) :
    d.toBinary64 = .ofUnits d.negative (units d.coefficient d.exponent) := by
  unfold toBinary64
  by_cases hnone : d.coefficient = 0 ∨ d.isTiny = true
  · have hunits : units d.coefficient d.exponent = 0 := by
      rcases hnone with hzero | htiny
      · exact units_of_coefficient_eq_zero hzero
      · exact units_of_isTiny htiny
    rw [if_pos hnone, hunits]
    exact (Binary64.ofUnits_units d.negative ⟨0, representable_zero⟩).symm
  · rw [if_neg hnone]
    by_cases hhuge : d.isHuge = true
    · have hlimit := units_of_isHuge (fun hzero => hnone (.inl hzero)) hhuge
      rw [if_pos hhuge, Binary64.ofUnits, dif_neg fun h => Nat.not_lt.mpr hlimit h.1]
    · rw [if_neg hhuge]

/-- The sign and the magnitude settle the double. -/
theorem toBinary64_congr {a b : Decimal} (hsign : a.negative = b.negative)
    (h : a.magnitude = b.magnitude) : a.toBinary64 = b.toBinary64 := by
  rw [toBinary64_eq_ofUnits, toBinary64_eq_ofUnits, hsign,
    Nat.le_antisymm (units_mono h.le) (units_mono h.ge)]

/-- The rank of the nearest double is the rounded magnitude, held back at the limit. -/
theorem rank?_toBinary64 (d : Decimal) :
    d.toBinary64.rank? =
      some (Binary64.signed d.negative (min (units d.coefficient d.exponent) unitsLimit)) := by
  obtain ⟨num, den, hden, hunits, _⟩ := d.exists_units_eq
  rw [toBinary64_eq_ofUnits, hunits]
  exact Binary64.rank?_ofRatio d.negative hden

/-- Numerals keep their order when they become doubles. -/
theorem le_toBinary64 {a b : Decimal} (h : a.value ≤ b.value) :
    a.toBinary64.le b.toBinary64 = true := by
  rw [Binary64.le_eq_true_iff]
  refine ⟨_, _, a.rank?_toBinary64, b.rank?_toBinary64, ?_⟩
  have ha := a.magnitude_nonneg
  have hb := b.magnitude_nonneg
  have hup : a.magnitude ≤ b.magnitude →
      units a.coefficient a.exponent ≤ units b.coefficient b.exponent := units_mono
  have hdown : b.magnitude ≤ a.magnitude →
      units b.coefficient b.exponent ≤ units a.coefficient a.exponent := units_mono
  unfold value at h
  -- the signs tell which magnitude is the greater one
  cases ha' : a.negative with
  | false =>
    cases hb' : b.negative with
    | false =>
      simp only [ha', hb', Bool.false_eq_true, if_false] at h
      have hunits := hup h
      simp only [Binary64.signed, Bool.false_eq_true, if_false]
      omega
    | true =>
      simp only [ha', hb', Bool.false_eq_true, if_false, if_true] at h
      have hzero := coefficient_eq_zero_of_magnitude (le_antisymm (by linarith) ha)
      have hzero' := coefficient_eq_zero_of_magnitude (le_antisymm (by linarith) hb)
      rw [units_of_coefficient_eq_zero hzero, units_of_coefficient_eq_zero hzero', Nat.zero_min]
      decide
  | true =>
    cases hb' : b.negative with
    | false =>
      simp only [Binary64.signed, Bool.false_eq_true, if_false, if_true]
      omega
    | true =>
      simp only [ha', hb', if_true] at h
      have hunits := hdown (by linarith)
      simp only [Binary64.signed, if_true]
      omega

end Decimal

end SqlGauge
