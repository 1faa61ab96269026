/-!
# Double-precision numbers, held exactly

A measurement is a double-precision number. `Binary64` holds one as a sign and a whole number of
units, where a unit is the least positive double, `2 ^ -1074`: the order of the numbers is then
the order of integers (`rank?`), and no step of a proof leaves exact arithmetic.

`ofRatio` is the double nearest to a quotient. It rounds to 53 significant bits first, a tie going
to the even neighbour, and what is then out of range becomes an infinity.
-/

namespace SqlGauge

/-! ## Rounding a quotient -/

/-- The whole number nearest to `num / den`; of two that are equally near, the even one. -/
def roundHalfEven (num den : Nat) : Nat :=
  let whole := num / den
  let rest := num % den
  if 2 * rest < den ∨ (2 * rest = den ∧ whole % 2 = 0) then whole else whole + 1

/-- A quotient that is whole is its own nearest whole number. -/
theorem roundHalfEven_mul_right {den : Nat} (whole : Nat) (h : 0 < den) :
    roundHalfEven (whole * den) den = whole := by
  simp [roundHalfEven, Nat.mul_div_cancel _ h, h]

/-- The nearest whole number is one of the two neighbours of the quotient. -/
theorem roundHalfEven_eq_or (num den : Nat) :
    roundHalfEven num den = num / den ∨ roundHalfEven num den = num / den + 1 := by
  simp only [roundHalfEven]
  split
  · exact Or.inl rfl
  · exact Or.inr rfl

/-! ## The numbers -/

/-- How often the number one has to be halved to give a unit. -/
def unitExponent : Nat := 1074

/-- The first magnitude that is too great is this power of two. -/
def rangeExponent : Nat := 1024

/-- The units of the first magnitude that is too great. -/
def unitsLimit : Nat := Nat.pow 2 (rangeExponent + unitExponent)

/-- The units of the number one. -/
def unitsPerOne : Nat := Nat.pow 2 unitExponent

/-- A magnitude is in range and has at most 53 bits from its first to its last one. -/
def Representable (units : Nat) : Prop :=
  units < unitsLimit ∧ Nat.pow 2 (units.log2 - 52) ∣ units

instance (units : Nat) : Decidable (Representable units) :=
  inferInstanceAs (Decidable (_ ∧ _))

theorem unitsLimit_pos : 0 < unitsLimit := by
  have hpow : ∀ exponent, 0 < Nat.pow 2 exponent := fun exponent => Nat.two_pow_pos exponent
  unfold unitsLimit
  exact hpow _

theorem representable_zero : Representable 0 :=
  ⟨unitsLimit_pos, Nat.dvd_zero _⟩

/-- The magnitude of a finite double. -/
structure Magnitude where
  units : Nat
  representable : Representable units
deriving DecidableEq

/-- A double-precision number. Zero has both signs; there is one value that is not a number. -/
inductive Binary64 where
  | nan
  | infinite (negative : Bool)
  | finite (negative : Bool) (magnitude : Magnitude)
deriving DecidableEq

namespace Binary64

/-- The numbers in their order: a finite number has the rank of its units, and the infinities come
where the first magnitudes out of range would. -/
def rank? : Binary64 → Option Int
  | nan => none
  | infinite negative => some (if negative then -unitsLimit else unitsLimit)
  | finite negative magnitude => some (if negative then -magnitude.units else magnitude.units)

/-- At most. False as soon as one side is not a number. -/
def le (x y : Binary64) : Bool :=
  match x.rank?, y.rank? with
  | some a, some b => a ≤ b
  | _, _ => false

/-- Less than. False as soon as one side is not a number. -/
def lt (x y : Binary64) : Bool :=
  match x.rank?, y.rank? with
  | some a, some b => a < b
  | _, _ => false

/-- Equality of values: the two zeros are equal, and what is not a number equals nothing. -/
def equals (x y : Binary64) : Bool :=
  match x.rank?, y.rank? with
  | some a, some b => a = b
  | _, _ => false

/-- Whether the number is one of the infinities. -/
def isInfinite : Binary64 → Bool
  | infinite _ => true
  | _ => false

@[simp] theorem le_nan (x : Binary64) : x.le nan = false := by
  cases x <;> rfl

@[simp] theorem nan_le (x : Binary64) : nan.le x = false := rfl

theorem le_eq_true_iff {x y : Binary64} :
    x.le y = true ↔ ∃ a b, x.rank? = some a ∧ y.rank? = some b ∧ a ≤ b := by
  simp only [le]
  split
  · next a b ha hb => simp [ha, hb]
  · next h =>
    constructor
    · simp
    · rintro ⟨a, b, ha, hb, _⟩
      exact absurd hb (h a b ha)

theorem rank?_eq_none_iff {x : Binary64} : x.rank? = none ↔ x = nan := by
  cases x with
  | nan => exact ⟨fun _ => rfl, fun _ => rfl⟩
  | infinite negative => exact iff_of_false (Option.some_ne_none _) Binary64.noConfusion
  | finite negative magnitude => exact iff_of_false (Option.some_ne_none _) Binary64.noConfusion

/-! ## Rounding to a double -/

/-- The units of the double nearest to `num / den` units, before the range is looked at: a multiple
of the step that leaves 53 significant bits. -/
def roundUnits (num den : Nat) : Nat :=
  let step := Nat.pow 2 ((num / den).log2 - 52)
  step * roundHalfEven num (den * step)

/-- The number with these units, infinite when no finite double has them. -/
def ofUnits (negative : Bool) (units : Nat) : Binary64 :=
  if h : Representable units then finite negative ⟨units, h⟩ else infinite negative

/-- The double nearest to `num / den` units. -/
def ofRatio (negative : Bool) (num den : Nat) : Binary64 :=
  ofUnits negative (roundUnits num den)

/-- Zero of either sign. -/
def zero (negative : Bool) : Binary64 :=
  finite negative ⟨0, representable_zero⟩

/-- A finite double is its own rounding. -/
theorem ofUnits_units (negative : Bool) (m : Magnitude) :
    ofUnits negative m.units = finite negative m := by
  simp [ofUnits, m.representable]

/-- Whole units with at most 53 significant bits are not changed by rounding. -/
theorem roundUnits_one {units : Nat} (h : Nat.pow 2 (units.log2 - 52) ∣ units) :
    roundUnits units 1 = units := by
  have hpos : 0 < Nat.pow 2 (units.log2 - 52) := Nat.pow_pos (by decide)
  simp only [roundUnits, Nat.div_one, Nat.one_mul]
  generalize Nat.pow 2 (units.log2 - 52) = step at h hpos
  obtain ⟨k, rfl⟩ := h
  rw [Nat.mul_comm step k, roundHalfEven_mul_right k hpos]
  exact Nat.mul_comm step k

theorem ofRatio_units_one (negative : Bool) (m : Magnitude) :
    ofRatio negative m.units 1 = finite negative m := by
  rw [ofRatio, roundUnits_one m.representable.2, ofUnits_units]

/-! ## Arithmetic on readings -/

/-- The product with a whole number, rounded. -/
def scale (factor : Nat) : Binary64 → Binary64
  | nan => nan
  | infinite negative => infinite negative
  | finite negative m => ofRatio negative (m.units * factor) 1

/-- Turns the units of a finite number into a whole number and gives it the number's sign. -/
def signed (negative : Bool) (whole : Nat) : Int :=
  if negative then -whole else whole

/-- The nearest integer, a tie going to the even one; none for what is not finite. -/
def nearestInt? : Binary64 → Option Int
  | finite negative m => some (signed negative (roundHalfEven m.units unitsPerOne))
  | _ => none

/-- The integer part; none for what is not finite. -/
def truncate? : Binary64 → Option Int
  | finite negative m => some (signed negative (m.units / unitsPerOne))
  | _ => none

end Binary64

end SqlGauge
