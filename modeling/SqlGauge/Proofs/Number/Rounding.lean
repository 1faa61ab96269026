import Mathlib.Tactic.Ring
import SqlGauge.Binary64.Basic

/-!
# Rounding keeps the order

A quotient that is not greater than another one is not greater after rounding either. This holds of
rounding to a whole number (`roundHalfEven_mono`), and from it of rounding to 53 bits
(`Binary64.roundUnits_mono`): either the same number of bits is cut off on both sides, or a power of
two lies between the two quotients, and rounding passes no power of two
(`Binary64.roundUnits_le_two_pow`, `Binary64.two_pow_le_roundUnits`).

What rounding gives is a double as long as it is in range, so the rank of the nearest double is the
rounded magnitude, held back at the limit of the range (`Binary64.rank?_ofRatio`).
-/

namespace SqlGauge

/-! ## The nearest whole number -/

theorem div_le_div_of_cross {num den num' den' : Nat} (hden : 0 < den) (hden' : 0 < den')
    (h : num * den' ≤ num' * den) : num / den ≤ num' / den' := by
  rw [Nat.le_div_iff_mul_le hden']
  refine Nat.le_of_mul_le_mul_right ?_ hden
  calc num / den * den' * den = num / den * den * den' := Nat.mul_right_comm _ _ _
    _ ≤ num * den' := Nat.mul_le_mul_right den' (Nat.div_mul_le_self num den)
    _ ≤ num' * den := h

/-- A quotient that is at most another one has no greater nearest whole number. -/
theorem roundHalfEven_mono {num den num' den' : Nat} (hden : 0 < den) (hden' : 0 < den')
    (h : num * den' ≤ num' * den) : roundHalfEven num den ≤ roundHalfEven num' den' := by
  rcases Nat.lt_or_eq_of_le (div_le_div_of_cross hden hden' h) with hlt | heq
  · have hup := roundHalfEven_eq_or num den
    have hdown := roundHalfEven_eq_or num' den'
    omega
  -- the whole parts agree, so the rests decide
  have hrest : num % den * den' ≤ num' % den' * den := by
    rw [← Nat.div_add_mod num den, ← Nat.div_add_mod num' den', ← heq, Nat.add_mul, Nat.add_mul,
      Nat.mul_right_comm den, Nat.mul_comm den den', Nat.mul_right_comm den'] at h
    exact Nat.le_of_add_le_add_left h
  have hcross : 2 * (num % den) * den' ≤ 2 * (num' % den') * den := by
    rw [Nat.mul_assoc, Nat.mul_assoc]
    exact Nat.mul_le_mul_left 2 hrest
  simp only [roundHalfEven, ← heq]
  by_cases hdown : 2 * (num % den) < den ∨ (2 * (num % den) = den ∧ num / den % 2 = 0)
  · rw [if_pos hdown]
    split
    · exact Nat.le_refl _
    · exact Nat.le_succ _
  · -- a rest beyond the half, or at it with an odd whole part, is no smaller on the other side
    have hup : ¬ (2 * (num' % den') < den' ∨ (2 * (num' % den') = den' ∧ num / den % 2 = 0)) := by
      have hhalf : den ≤ 2 * (num % den) := by
        by_contra hlt
        exact hdown (.inl (by omega))
      rintro (hlt | ⟨htie, heven⟩)
      · have hlow : den * den' ≤ 2 * (num % den) * den' := Nat.mul_le_mul_right den' hhalf
        have hhigh : 2 * (num' % den') * den < den' * den := Nat.mul_lt_mul_of_pos_right hlt hden
        rw [Nat.mul_comm den' den] at hhigh
        omega
      · rw [htie, Nat.mul_comm den' den] at hcross
        have htie' : 2 * (num % den) ≤ den := Nat.le_of_mul_le_mul_right hcross hden'
        exact hdown (.inr ⟨by omega, heven⟩)
    rw [if_neg hdown, if_neg hup]

/-- What is at most a whole number is not rounded beyond it. -/
theorem roundHalfEven_le {num den whole : Nat} (hden : 0 < den) (h : num ≤ whole * den) :
    roundHalfEven num den ≤ whole := by
  have hmono := roundHalfEven_mono hden hden (Nat.mul_le_mul_right den h)
  rwa [roundHalfEven_mul_right whole hden] at hmono

theorem le_roundHalfEven {num den whole : Nat} (hden : 0 < den) (h : whole * den ≤ num) :
    whole ≤ roundHalfEven num den := by
  have hmono := roundHalfEven_mono hden hden (Nat.mul_le_mul_right den h)
  rwa [roundHalfEven_mul_right whole hden] at hmono

namespace Binary64

/-! ## Powers of two -/

/-- How many bits rounding cuts off. -/
def cutBits (num den : Nat) : Nat :=
  (num / den).log2 - 52

theorem roundUnits_eq (num den : Nat) :
    roundUnits num den =
      2 ^ cutBits num den * roundHalfEven num (den * 2 ^ cutBits num den) := rfl

/-- What is below a power of two is not rounded beyond it. -/
theorem roundUnits_le_two_pow {num den bits : Nat} (hden : 0 < den) (h : num < 2 ^ bits * den) :
    roundUnits num den ≤ 2 ^ bits := by
  have hwhole : num / den < 2 ^ bits := (Nat.div_lt_iff_lt_mul hden).mpr h
  have hbits : cutBits num den ≤ bits := by
    unfold cutBits
    by_cases hzero : num / den = 0
    · rw [hzero]
      exact Nat.zero_le _
    · have hlog := (Nat.log2_lt hzero).mpr hwhole
      omega
  have hsplit : 2 ^ bits = 2 ^ (bits - cutBits num den) * 2 ^ cutBits num den := by
    rw [← Nat.pow_add, Nat.sub_add_cancel hbits]
  rw [roundUnits_eq, hsplit, Nat.mul_comm]
  refine Nat.mul_le_mul_right _ (roundHalfEven_le (Nat.mul_pos hden (Nat.two_pow_pos _)) ?_)
  rw [hsplit, Nat.mul_assoc, Nat.mul_comm (2 ^ cutBits num den)] at h
  exact Nat.le_of_lt h

/-- What is not below a power of two is not rounded below it. -/
theorem two_pow_le_roundUnits {num den bits : Nat} (hden : 0 < den) (h : 2 ^ bits * den ≤ num) :
    2 ^ bits ≤ roundUnits num den := by
  have hwhole : 2 ^ bits ≤ num / den := (Nat.le_div_iff_mul_le hden).mpr h
  have hne : num / den ≠ 0 := Nat.ne_of_gt (Nat.lt_of_lt_of_le (Nat.two_pow_pos bits) hwhole)
  have hlog : bits ≤ (num / den).log2 := (Nat.le_log2 hne).mpr hwhole
  -- the first bit is kept whatever is cut off
  have hcut : cutBits num den ≤ (num / den).log2 := Nat.sub_le _ _
  have hfirst : 2 ^ ((num / den).log2 - cutBits num den) * (den * 2 ^ cutBits num den) ≤ num := by
    rw [Nat.mul_left_comm, ← Nat.pow_add, Nat.sub_add_cancel hcut]
    calc den * 2 ^ (num / den).log2 ≤ den * (num / den) :=
          Nat.mul_le_mul_left den (Nat.log2_self_le hne)
      _ ≤ num := Nat.mul_div_le num den
  calc 2 ^ bits ≤ 2 ^ (num / den).log2 := Nat.pow_le_pow_right (by decide) hlog
    _ = 2 ^ cutBits num den * 2 ^ ((num / den).log2 - cutBits num den) := by
        rw [← Nat.pow_add, Nat.add_sub_cancel' hcut]
    _ ≤ roundUnits num den :=
        Nat.mul_le_mul_left _ (le_roundHalfEven (Nat.mul_pos hden (Nat.two_pow_pos _)) hfirst)

/-- What is out of range is not rounded into it. -/
theorem unitsLimit_le_roundUnits {num den : Nat} (hden : 0 < den) (h : unitsLimit * den ≤ num) :
    unitsLimit ≤ roundUnits num den := by
  have hpower : ∃ bits, unitsLimit = 2 ^ bits := by
    unfold unitsLimit
    generalize rangeExponent + unitExponent = bits
    exact ⟨bits, Nat.pow_eq⟩
  obtain ⟨bits, hbits⟩ := hpower
  rw [hbits] at h ⊢
  exact two_pow_le_roundUnits hden h

/-- What is below half a unit is rounded to nothing. -/
theorem roundUnits_eq_zero {num den : Nat} (h : 2 * num < den) : roundUnits num den = 0 := by
  have hwhole : num / den = 0 := Nat.div_eq_of_lt (by omega)
  have hcut : cutBits num den = 0 := by
    unfold cutBits
    rw [hwhole]
    rfl
  have hrest : num % den = num := Nat.mod_eq_of_lt (by omega)
  rw [roundUnits_eq, hcut, Nat.pow_zero, Nat.mul_one, Nat.one_mul]
  simp only [roundHalfEven, hwhole, hrest, h, true_or, if_true]

/-! ## Order -/

theorem log2_mono {a b : Nat} (h : a ≤ b) : a.log2 ≤ b.log2 := by
  by_cases hzero : a = 0
  · rw [hzero]
    exact Nat.zero_le _
  · have hb : b ≠ 0 := by omega
    rw [Nat.le_log2 hb]
    exact Nat.le_trans (Nat.log2_self_le hzero) h

/-- A quotient that is at most another one has no greater units. -/
theorem roundUnits_mono {num den num' den' : Nat} (hden : 0 < den) (hden' : 0 < den')
    (h : num * den' ≤ num' * den) : roundUnits num den ≤ roundUnits num' den' := by
  have hwhole := div_le_div_of_cross hden hden' h
  have hlog := log2_mono hwhole
  by_cases hcut : cutBits num den = cutBits num' den'
  · rw [roundUnits_eq, roundUnits_eq, hcut]
    refine Nat.mul_le_mul_left _ (roundHalfEven_mono (Nat.mul_pos hden (Nat.two_pow_pos _))
      (Nat.mul_pos hden' (Nat.two_pow_pos _)) ?_)
    rw [← Nat.mul_assoc, ← Nat.mul_assoc]
    exact Nat.mul_le_mul_right _ h
  · -- more is cut off on the other side, so the first bit there lies between the two
    have hfirst : (num / den).log2 < (num' / den').log2 := by
      unfold cutBits at hcut
      omega
    have hne : num' / den' ≠ 0 := by
      intro hzero
      rw [hzero, Nat.log2_zero] at hfirst
      omega
    have hbelow : num < 2 ^ (num' / den').log2 * den := by
      rw [← Nat.div_lt_iff_lt_mul hden]
      exact Nat.lt_of_lt_of_le Nat.lt_log2_self (Nat.pow_le_pow_right (by decide) hfirst)
    have habove : 2 ^ (num' / den').log2 * den' ≤ num' := by
      rw [← Nat.le_div_iff_mul_le hden']
      exact Nat.log2_self_le hne
    exact Nat.le_trans (roundUnits_le_two_pow hden hbelow) (two_pow_le_roundUnits hden' habove)

/-- A quotient that is whole is not changed by rounding if it has at most 53 bits. -/
theorem roundUnits_mul_right {units den : Nat} (hden : 0 < den)
    (h : 2 ^ (units.log2 - 52) ∣ units) : roundUnits (units * den) den = units := by
  have hone : roundUnits units 1 = units := roundUnits_one h
  refine Nat.le_antisymm ?_ ?_
  · have hle := roundUnits_mono hden Nat.one_pos (Nat.le_of_eq (Nat.mul_one (units * den)))
    rwa [hone] at hle
  · have hle := roundUnits_mono Nat.one_pos hden (Nat.le_of_eq (Nat.mul_one (units * den)).symm)
    rwa [hone] at hle

/-! ## Doubles -/

/-- At most 53 bits are left. -/
theorem roundHalfEven_cutBits_le {num den : Nat} (hden : 0 < den) :
    roundHalfEven num (den * 2 ^ cutBits num den) ≤ 2 ^ 53 := by
  refine roundHalfEven_le (Nat.mul_pos hden (Nat.two_pow_pos _)) ?_
  have hbits : num / den < 2 ^ (cutBits num den + 53) := by
    have hlog : (num / den).log2 + 1 ≤ cutBits num den + 53 := by
      unfold cutBits
      omega
    exact Nat.lt_of_lt_of_le Nat.lt_log2_self (Nat.pow_le_pow_right (by decide) hlog)
  rw [Nat.div_lt_iff_lt_mul hden, Nat.pow_add] at hbits
  calc num ≤ 2 ^ cutBits num den * 2 ^ 53 * den := Nat.le_of_lt hbits
    _ = 2 ^ 53 * (den * 2 ^ cutBits num den) := by ring

/-- Less than 53 bits before some zeros do not reach further than 52 bits beyond them. -/
theorem log2_mul_sub_le (cut : Nat) {kept : Nat} (h : kept < 2 ^ 53) :
    (2 ^ cut * kept).log2 - 52 ≤ cut := by
  by_cases hzero : kept = 0
  · rw [hzero, Nat.mul_zero, Nat.log2_zero]
    omega
  · have hne : 2 ^ cut * kept ≠ 0 := Nat.mul_ne_zero (Nat.ne_of_gt (Nat.two_pow_pos cut)) hzero
    have hlog : (2 ^ cut * kept).log2 < cut + 53 := by
      rw [Nat.log2_lt hne, Nat.pow_add]
      exact Nat.mul_lt_mul_of_pos_left h (Nat.two_pow_pos cut)
    omega

/-- Steps, at most as many as 53 bits count, have at most 53 bits from the first to the last one. -/
theorem two_pow_dvd_mul (cut : Nat) {kept : Nat} (h : kept ≤ 2 ^ 53) :
    2 ^ ((2 ^ cut * kept).log2 - 52) ∣ 2 ^ cut * kept := by
  rcases Nat.lt_or_eq_of_le h with hlt | rfl
  · exact Nat.dvd_mul_right_of_dvd (Nat.pow_dvd_pow 2 (log2_mul_sub_le cut hlt)) kept
  · -- rounding up brought one more bit, and all bits after it are zero
    rw [← Nat.pow_add, Nat.log2_two_pow]
    exact Nat.pow_dvd_pow 2 (by omega)

/-- What rounding gives has at most 53 bits from its first to its last one. -/
theorem two_pow_dvd_roundUnits {num den : Nat} (hden : 0 < den) :
    2 ^ ((roundUnits num den).log2 - 52) ∣ roundUnits num den := by
  rw [roundUnits_eq]
  exact two_pow_dvd_mul _ (roundHalfEven_cutBits_le hden)

/-- The rank of the nearest double is the rounded magnitude, held back at the limit. -/
theorem rank?_ofRatio (negative : Bool) {num den : Nat} (hden : 0 < den) :
    (ofRatio negative num den).rank? =
      some (signed negative (min (roundUnits num den) unitsLimit)) := by
  unfold ofRatio ofUnits
  by_cases h : Representable (roundUnits num den)
  · rw [dif_pos h, Nat.min_eq_left (Nat.le_of_lt h.1)]
    rfl
  · have hlimit : unitsLimit ≤ roundUnits num den := by
      by_contra hlt
      exact h ⟨Nat.lt_of_not_le hlt, two_pow_dvd_roundUnits hden⟩
    rw [dif_neg h, Nat.min_eq_right hlimit]
    rfl

end Binary64

end SqlGauge
