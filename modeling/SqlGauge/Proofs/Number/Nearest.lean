import Mathlib.Tactic
import SqlGauge.Proofs.Number.Exact

/-!
# The nearest double

`Binary64.Nearest` says which double is the nearest one to a number of some sign, without saying how
it is found: no other finite double is nearer, of two that are equally near it is the one whose last
bit is zero, and numbers from half a step beyond the greatest finite double on go to infinity.

There is one such double only (`Binary64.Nearest.unique`), since another one lies between two that both
end in a zero bit. Rounding finds it (`Binary64.nearest_ofRatio`): it finds what is nearest among all
magnitudes of 53 bits, however great, and the limit of the range then decides. So a numeral is read
as the double that is nearest to its number (`Decimal.nearest_iff`).
-/

namespace SqlGauge

/-! ## What is nearest -/

/-- The number `a` is nearer to `x` than `b` is, or as near and then preferred by the rule for ties. -/
def Prefers (tie : Prop) (x a b : ℚ) : Prop :=
  |x - a| < |x - b| ∨ |x - a| = |x - b| ∧ tie

/-- The number that a magnitude is. -/
def Magnitude.value (m : Magnitude) : ℚ :=
  m.units / unitsPerOne

/-- The last of the 53 bits is zero. -/
def EndsInZero (units : Nat) : Prop :=
  2 ^ (units.log2 - 52 + 1) ∣ units

namespace Binary64

/-- Half a step beyond the greatest finite double. -/
def overflow : ℚ :=
  2 ^ 1024 - 2 ^ 970

/-- The double that is nearest to a number of some sign. -/
inductive Nearest (negative : Bool) (x : ℚ) : Binary64 → Prop where
  | finite {m : Magnitude} (within : x < overflow)
      (closest : ∀ other : Magnitude, other ≠ m →
        Prefers (EndsInZero m.units) x m.value other.value) :
      Nearest negative x (finite negative m)
  | infinite (beyond : overflow ≤ x) : Nearest negative x (infinite negative)

end Binary64

namespace Prefers

variable {tie tie' : Prop} {x a b : ℚ}

theorem le (h : Prefers tie x a b) : |x - a| ≤ |x - b| := by
  rcases h with hlt | ⟨heq, _⟩
  · exact hlt.le
  · exact heq.le

theorem imp (h : Prefers tie x a b) (htie : tie → tie') : Prefers tie' x a b := by
  rcases h with hlt | ⟨heq, ht⟩
  · exact .inl hlt
  · exact .inr ⟨heq, htie ht⟩

/-- What is near does not depend on the unit. -/
theorem mul_iff {scale : ℚ} (hscale : 0 < scale) :
    Prefers tie (scale * x) (scale * a) (scale * b) ↔ Prefers tie x a b := by
  have habs : ∀ y : ℚ, |scale * x - scale * y| = scale * |x - y| := by
    intro y
    rw [← mul_sub, abs_mul, abs_of_pos hscale]
  unfold Prefers
  rw [habs, habs, mul_lt_mul_iff_right₀ hscale, mul_right_inj' hscale.ne']

end Prefers

namespace Binary64

/-! ## The nearest whole number -/

/-- A quotient is at most a half away from its nearest whole number, and if it is a half away, this
number is even. -/
theorem abs_sub_roundHalfEven (num : Nat) {den : Nat} (hden : 0 < den) :
    2 * |(num : ℚ) / den - roundHalfEven num den| ≤ 1 ∧
      (2 * |(num : ℚ) / den - roundHalfEven num den| = 1 → roundHalfEven num den % 2 = 0) := by
  have hpos : (0 : ℚ) < den := by exact_mod_cast hden
  have hquotient : (num : ℚ) / den = (num / den : Nat) + (num % den : Nat) / den := by
    rw [div_eq_iff hpos.ne', add_mul, div_mul_cancel₀ _ hpos.ne']
    have hsplit : num / den * den + num % den = num := by
      rw [Nat.mul_comm]
      exact Nat.div_add_mod num den
    exact_mod_cast hsplit.symm
  -- the part of the quotient that is cut off, compared with a half
  have hnonneg : (0 : ℚ) ≤ (num % den : Nat) / (den : ℚ) := by positivity
  have hhalf : 2 * ((num % den : Nat) / (den : ℚ)) = (2 * (num % den) : Nat) / (den : ℚ) := by
    push_cast
    ring
  have hrest : (num % den : Nat) / (den : ℚ) < 1 := by
    rw [div_lt_one hpos]
    exact_mod_cast Nat.mod_lt num hden
  have htie : 2 * ((num % den : Nat) / (den : ℚ)) = 1 → 2 * (num % den) = den := by
    intro h
    rw [hhalf, div_eq_one_iff_eq hpos.ne'] at h
    exact_mod_cast h
  rw [hquotient]
  simp only [roundHalfEven]
  split
  · next hdown =>
    have hle : 2 * ((num % den : Nat) / (den : ℚ)) ≤ 1 := by
      rw [hhalf, div_le_one hpos]
      have : 2 * (num % den) ≤ den := by omega
      exact_mod_cast this
    rw [add_sub_cancel_left, abs_of_nonneg hnonneg]
    refine ⟨hle, fun hone => ?_⟩
    have := htie hone
    omega
  · next hup =>
    have hge : 1 ≤ 2 * ((num % den : Nat) / (den : ℚ)) := by
      rw [hhalf, one_le_div hpos]
      have : den ≤ 2 * (num % den) := by omega
      exact_mod_cast this
    have hdistance : |((num / den : Nat) : ℚ) + (num % den : Nat) / den - (num / den + 1 : Nat)| =
        1 - (num % den : Nat) / den := by
      rw [abs_of_nonpos] <;> push_cast <;> linarith
    rw [hdistance]
    refine ⟨by linarith, fun hone => ?_⟩
    have := htie (by linarith)
    omega

/-- A quotient prefers its nearest whole number to every other one. -/
theorem prefers_roundHalfEven (num : Nat) {den : Nat} (hden : 0 < den) {other : Nat}
    (hne : other ≠ roundHalfEven num den) :
    Prefers (roundHalfEven num den % 2 = 0) ((num : ℚ) / den) (roundHalfEven num den) other := by
  obtain ⟨hnear, heven⟩ := abs_sub_roundHalfEven num hden
  generalize roundHalfEven num den = whole at *
  generalize (num : ℚ) / den = x at *
  have hapart : (1 : ℚ) ≤ |x - whole| + |x - other| := by
    have hint : (1 : ℤ) ≤ |(other : ℤ) - whole| := Int.one_le_abs (by omega)
    have hcast : (1 : ℚ) ≤ |(other : ℚ) - whole| := by exact_mod_cast hint
    calc (1 : ℚ) ≤ |(other : ℚ) - whole| := hcast
      _ = |(x - whole) - (x - other)| := by ring_nf
      _ ≤ |x - whole| + |x - other| := abs_sub _ _
  rcases lt_or_eq_of_le (show |x - whole| ≤ |x - other| by linarith) with hlt | heq
  · exact .inl hlt
  · exact .inr ⟨heq, heven (by linarith)⟩

/-! ## The nearest magnitude -/

/-- At most 53 bits of the units lie between the first and the last one that is not zero. -/
def Fits (units : Nat) : Prop :=
  2 ^ (units.log2 - 52) ∣ units

/-- A power of two divides what fits, unless it is too great to be told from what is below it. -/
theorem Fits.dvd_or_lt {units : Nat} (h : Fits units) (cut : Nat) :
    2 ^ cut ∣ units ∨ units < 2 ^ (52 + cut) := by
  by_cases hbits : cut ≤ units.log2 - 52
  · exact .inl ((Nat.pow_dvd_pow 2 hbits).trans h)
  · right
    exact Nat.lt_of_lt_of_le Nat.lt_log2_self (Nat.pow_le_pow_right (by decide) (by omega))

/-- If anything is cut off, the quotient has all of the 53 bits that are kept. -/
theorem two_pow_le_quotient {num den : Nat} (hcut : cutBits num den ≠ 0) :
    2 ^ (52 + cutBits num den) ≤ num / den := by
  unfold cutBits at *
  have hne : num / den ≠ 0 := by
    intro hzero
    rw [hzero, Nat.log2_zero] at hcut
    omega
  rw [Nat.add_sub_of_le (by omega)]
  exact Nat.log2_self_le hne

/-- A quotient prefers what it is rounded to before every multiple of the step. -/
theorem prefers_step (num : Nat) {den : Nat} (hden : 0 < den) {steps : Nat}
    (hne : steps ≠ roundHalfEven num (den * 2 ^ cutBits num den)) :
    Prefers (roundHalfEven num (den * 2 ^ cutBits num den) % 2 = 0) ((num : ℚ) / den)
      (roundUnits num den) (2 ^ cutBits num den * steps : Nat) := by
  rw [roundUnits_eq]
  generalize cutBits num den = cut at *
  have hwhole := prefers_roundHalfEven num (Nat.mul_pos hden (Nat.two_pow_pos cut)) hne
  rw [← Prefers.mul_iff (show (0 : ℚ) < 2 ^ cut by positivity)] at hwhole
  have hquotient : (2 : ℚ) ^ cut * (num / (den * 2 ^ cut : Nat)) = num / den := by
    have hpos : (den : ℚ) ≠ 0 := by exact_mod_cast hden.ne'
    push_cast
    field_simp
  rw [hquotient] at hwhole
  push_cast
  exact hwhole

/-- A quotient prefers what it is rounded to before everything else that fits. -/
theorem prefers_roundUnits (num : Nat) {den : Nat} (hden : 0 < den) {other : Nat}
    (hfits : Fits other) (hne : other ≠ roundUnits num den) :
    Prefers (roundHalfEven num (den * 2 ^ cutBits num den) % 2 = 0) ((num : ℚ) / den)
      (roundUnits num den) other := by
  have hstep : ∀ steps, 2 ^ cutBits num den * steps ≠ roundUnits num den →
      Prefers (roundHalfEven num (den * 2 ^ cutBits num den) % 2 = 0) ((num : ℚ) / den)
        (roundUnits num den) (2 ^ cutBits num den * steps : Nat) := by
    intro steps hsteps
    refine prefers_step num hden fun heq => hsteps ?_
    rw [heq, roundUnits_eq]
  by_cases hcut : cutBits num den = 0
  · have hone := hstep other
    rw [hcut, Nat.pow_zero, Nat.one_mul] at hone
    rw [hcut]
    exact hone hne
  rcases hfits.dvd_or_lt (cutBits num den) with ⟨steps, rfl⟩ | hbelow
  · exact hstep steps hne
  · -- what is off the grid lies below the first bit of the quotient, which is on the grid
    left
    have hfirst := (Nat.le_div_iff_mul_le hden).mp (two_pow_le_quotient hcut)
    have hfirst_step := hstep (2 ^ 52)
    rw [← Nat.pow_add, Nat.add_comm] at hfirst_step
    generalize 2 ^ (52 + cutBits num den) = first at *
    have hle : (first : ℚ) ≤ num / den := by
      rw [le_div_iff₀ (by exact_mod_cast hden)]
      exact_mod_cast hfirst
    have hlt : (other : ℚ) < first := by exact_mod_cast hbelow
    have hnear : |(num : ℚ) / den - roundUnits num den| ≤ |(num : ℚ) / den - first| := by
      by_cases heq : first = roundUnits num den
      · rw [heq]
      · exact (hfirst_step heq).le
    calc |(num : ℚ) / den - roundUnits num den| ≤ |(num : ℚ) / den - first| := hnear
      _ = num / den - first := abs_of_nonneg (by linarith)
      _ < num / den - other := by linarith
      _ = |(num : ℚ) / den - other| := (abs_of_pos (by linarith)).symm

/-- An even number of steps ends in a zero bit. -/
theorem endsInZero_roundUnits {num den : Nat} (hden : 0 < den)
    (heven : roundHalfEven num (den * 2 ^ cutBits num den) % 2 = 0) :
    EndsInZero (roundUnits num den) := by
  unfold EndsInZero
  rw [roundUnits_eq]
  have hbits := @roundHalfEven_cutBits_le num den hden
  generalize roundHalfEven num (den * 2 ^ cutBits num den) = kept at *
  generalize cutBits num den = cut
  rcases Nat.lt_or_eq_of_le hbits with hlt | rfl
  · have hdvd : 2 ^ (cut + 1) ∣ 2 ^ cut * kept := by
      rw [Nat.pow_succ]
      exact Nat.mul_dvd_mul_left _ (Nat.dvd_of_mod_eq_zero heven)
    have hlog := log2_mul_sub_le cut hlt
    exact (Nat.pow_dvd_pow 2 (by omega)).trans hdvd
  · rw [← Nat.pow_add, Nat.log2_two_pow]
    exact Nat.pow_dvd_pow 2 (by omega)

/-! ## The limit of the range -/

/-- Half the step between the greatest finite magnitudes. -/
def halfStep : Nat :=
  2 ^ (rangeExponent + unitExponent - 54)

/-- The greatest finite magnitude. -/
def greatest : Nat :=
  unitsLimit - 2 * halfStep

theorem halfStep_pos : 0 < halfStep := by
  decide +kernel

theorem greatest_add : greatest + 2 * halfStep = unitsLimit := by
  decide +kernel

theorem fits_greatest : Fits greatest := by
  show 2 ^ (greatest.log2 - 52) ∣ greatest
  decide +kernel

/-- The tie between the greatest finite magnitude and the first one out of range is rounded up. -/
theorem roundUnits_tie : roundUnits (greatest + halfStep) 1 = unitsLimit := by
  decide +kernel

theorem overflow_eq : overflow * unitsPerOne = (greatest + halfStep : Nat) := by
  have hunits : (2 ^ 1024 - 2 ^ 970) * unitsPerOne = greatest + halfStep := by decide +kernel
  have hle : 2 ^ 970 ≤ 2 ^ 1024 := by decide +kernel
  rw [← hunits, Nat.cast_mul, Nat.cast_sub hle, Nat.cast_pow, Nat.cast_pow]
  rfl

/-- What is rounded out of range is at least half a step beyond the greatest finite magnitude. -/
theorem unitsLimit_le_roundUnits_iff {num den : Nat} (hden : 0 < den) :
    unitsLimit ≤ roundUnits num den ↔ ((greatest + halfStep : Nat) : ℚ) ≤ num / den := by
  have hhalf := halfStep_pos
  have hlimit := greatest_add
  constructor
  · intro hle
    by_contra hbelow
    -- the greatest finite magnitude would be nearer
    have hne : greatest ≠ roundUnits num den := by omega
    have hnear := (prefers_roundUnits num hden fits_greatest hne).le
    have hround : ((greatest + 2 * halfStep : Nat) : ℚ) ≤ roundUnits num den := by
      rw [hlimit]
      exact_mod_cast hle
    have hpos : (0 : ℚ) < halfStep := by exact_mod_cast hhalf
    push_cast at hbelow hround
    rw [abs_of_nonpos (by linarith)] at hnear
    rcases abs_cases ((num : ℚ) / den - greatest) with ⟨heq, _⟩ | ⟨heq, _⟩ <;> linarith
  · intro hle
    rw [← roundUnits_tie]
    refine roundUnits_mono Nat.one_pos hden ?_
    rw [le_div_iff₀ (by exact_mod_cast hden)] at hle
    rw [Nat.mul_one]
    exact_mod_cast hle

/-! ## Rounding finds the nearest double -/

theorem unitsPerOne_pos : (0 : ℚ) < unitsPerOne := by
  have hpos : 0 < unitsPerOne := by decide +kernel
  exact_mod_cast hpos

theorem unitsPerOne_mul_value (m : Magnitude) : unitsPerOne * m.value = m.units :=
  mul_div_cancel₀ _ unitsPerOne_pos.ne'

/-- Rounding a quotient of units gives the double that is nearest to it. -/
theorem nearest_ofRatio (negative : Bool) {num den : Nat} (hden : 0 < den) {x : ℚ}
    (hx : (num : ℚ) / den = x * unitsPerOne) : Nearest negative x (ofRatio negative num den) := by
  have hrange : unitsLimit ≤ roundUnits num den ↔ overflow ≤ x := by
    rw [unitsLimit_le_roundUnits_iff hden, hx, ← overflow_eq, mul_le_mul_iff_left₀ unitsPerOne_pos]
  unfold ofRatio ofUnits
  split
  · next h =>
    refine .finite (lt_of_not_ge fun hbeyond => ?_) fun other hother => ?_
    · exact Nat.not_le.mpr h.1 (hrange.mpr hbeyond)
    · rw [← Prefers.mul_iff unitsPerOne_pos, unitsPerOne_mul_value, unitsPerOne_mul_value, mul_comm,
        ← hx]
      refine (prefers_roundUnits num hden other.representable.2 fun hunits => hother ?_).imp
        (endsInZero_roundUnits hden)
      cases other
      cases hunits
      rfl
  · next h =>
    refine .infinite (hrange.mp ?_)
    by_contra hbelow
    exact h ⟨Nat.lt_of_not_le hbelow, two_pow_dvd_roundUnits hden⟩

/-! ## There is only one -/

/-- Between two magnitudes that end in a zero bit there is another one that fits. -/
theorem exists_between {a b : Nat} (hlt : a < b) (ha : EndsInZero a) (hb : EndsInZero b) :
    ∃ c, a < c ∧ c < b ∧ Fits c := by
  -- the step of the lower one, which is no greater than that of the other one
  have hbits : a.log2 - 52 ≤ b.log2 - 52 := Nat.sub_le_sub_right (log2_mono hlt.le) 52
  have hstep := (Nat.pow_dvd_pow 2 (Nat.add_le_add_right hbits 1)).trans hb
  have hbelow : a < 2 ^ (a.log2 - 52) * 2 ^ 53 := by
    rw [← Nat.pow_add]
    exact Nat.lt_of_lt_of_le Nat.lt_log2_self (Nat.pow_le_pow_right (by decide) (by omega))
  unfold EndsInZero at ha
  generalize a.log2 - 52 = cut at *
  have hsplit : ∀ steps, 2 ^ (cut + 1) * steps = 2 ^ cut * (2 * steps) := by
    intro steps
    rw [Nat.pow_succ, Nat.mul_assoc]
  obtain ⟨steps, rfl⟩ := ha
  obtain ⟨more, rfl⟩ := hstep
  have hmore := Nat.lt_of_mul_lt_mul_left hlt
  rw [hsplit] at hbelow
  have hsteps := Nat.lt_of_mul_lt_mul_left hbelow
  refine ⟨2 ^ cut * (2 * steps + 1), ?_, ?_, two_pow_dvd_mul cut (by omega)⟩
  · rw [hsplit]
    exact Nat.mul_lt_mul_of_pos_left (Nat.lt_succ_self _) (Nat.two_pow_pos cut)
  · rw [hsplit]
    exact Nat.mul_lt_mul_of_pos_left (by omega) (Nat.two_pow_pos cut)

/-- What is between two numbers that are equally near is nearer than they are. -/
theorem abs_sub_lt_of_between {x a b c : ℚ} (ha : a < c) (hb : c < b) (h : |x - a| = |x - b|) :
    |x - c| < |x - a| := by
  rcases abs_eq_abs.mp h with heq | heq
  · linarith
  · rw [abs_of_pos (show 0 < x - a by linarith), abs_lt]
    constructor <;> linarith

/-- Two finite doubles are not equally near if both of them end in a zero bit. -/
theorem not_equally_near {x : ℚ} {m m' : Magnitude} (hlt : m.units < m'.units)
    (closest : ∀ other : Magnitude, other ≠ m →
      Prefers (EndsInZero m.units) x m.value other.value)
    (heq : |x - m.value| = |x - m'.value|) (hzero : EndsInZero m.units)
    (hzero' : EndsInZero m'.units) : False := by
  obtain ⟨units, habove, hbelow, hfits⟩ := exists_between hlt hzero hzero'
  let other : Magnitude := ⟨units, Nat.lt_trans hbelow m'.representable.1, hfits⟩
  have hvalue : ∀ {n n' : Nat}, n < n' → (n : ℚ) / unitsPerOne < n' / unitsPerOne := by
    intro n n' h
    exact div_lt_div_of_pos_right (by exact_mod_cast h) unitsPerOne_pos
  have hne : other ≠ m := by
    rintro rfl
    exact Nat.lt_irrefl _ habove
  have hnearer := abs_sub_lt_of_between (hvalue habove) (hvalue hbelow) heq
  exact absurd (closest other hne).le (not_le.mpr hnearer)

/-- Only one double is the nearest one. -/
theorem Nearest.unique {negative : Bool} {x : ℚ} {value value' : Binary64}
    (h : Nearest negative x value) (h' : Nearest negative x value') : value = value' := by
  cases h with
  | infinite beyond =>
    cases h' with
    | infinite _ => rfl
    | finite within _ => exact absurd beyond (not_le.mpr within)
  | @finite m within closest =>
    cases h' with
    | infinite beyond => exact absurd beyond (not_le.mpr within)
    | @finite m' _ closest' =>
      by_cases hne : m' = m
      · rw [hne]
      · exfalso
        -- each of them would be preferred to the other one, so they are equally near
        obtain ⟨heq, hzero⟩ := (closest m' hne).resolve_left fun hlt =>
          absurd (closest' m (Ne.symm hne)).le (not_le.mpr hlt)
        obtain ⟨_, hzero'⟩ := (closest' m (Ne.symm hne)).resolve_left fun hlt =>
          absurd heq.le (not_le.mpr hlt)
        rcases Nat.lt_trichotomy m.units m'.units with hlt | hunits | hgt
        · exact not_equally_near hlt closest heq hzero hzero'
        · cases m
          cases m'
          cases hunits
          exact hne rfl
        · exact not_equally_near hgt closest' heq.symm hzero' hzero

end Binary64

/-! ## Numerals -/

namespace Decimal

/-- The double that a numeral is read as is the nearest one to its number. -/
theorem nearest_iff {d : Decimal} {value : Binary64} :
    Binary64.Nearest d.negative d.magnitude value ↔ d.toBinary64 = value := by
  have hnearest : Binary64.Nearest d.negative d.magnitude d.toBinary64 := by
    obtain ⟨num, den, hden, hunits, hratio⟩ := d.exists_units_eq
    rw [toBinary64_eq_ofUnits, hunits]
    exact Binary64.nearest_ofRatio d.negative hden hratio
  constructor
  · intro h
    exact hnearest.unique h
  · rintro rfl
    exact hnearest

end Decimal

end SqlGauge
