import Mathlib.Data.List.DropRight
import SqlGauge.Decimal.Text
import SqlGauge.Proofs.Number.Exact
import SqlGauge.Proofs.Number.Grammar

/-!
# Written numbers

A double is written in a layout that depends on its size: positionally, with a point somewhere between
or before its digits, or with an exponent mark. Each layout is a numeral, and it denotes the number
that is written (`Decimal.denotes_layout`). `Numeral.Denotes` says so without looking at the sign, which
stands in front of all of them.

The fewest digits that read back are found by trying, and what is found has been read back; if nothing
is found, all digits of the double are written (`Decimal.units_shortest`). So the text of a finite
double is a numeral of this double, whatever its sign and size (`Binary64.exists_numeral_shortText`).
-/

namespace SqlGauge

namespace Numeral

/-! ## Plain digits -/

/-- There are only the digits from zero to nine in the text. -/
def Plain (text : List Char) : Prop :=
  ∀ c ∈ text, c.isDigit = true

theorem plain_append {text more : List Char} :
    Plain (text ++ more) ↔ Plain text ∧ Plain more :=
  List.forall_mem_append

theorem plain_zeros (count : Nat) : Plain (List.replicate count '0') := by
  intro c hc
  rw [List.eq_of_mem_replicate hc]
  rfl

theorem plain_toDigits (number : Nat) : Plain (Nat.toDigits 10 number) :=
  fun _ hc => Nat.isDigit_of_mem_toDigits (by decide) (by decide) hc

/-- The values of plain digits. -/
def plainValues (text : List Char) : List Nat :=
  text.map fun c => c.toNat - '0'.toNat

theorem ofDigits_plainValues (text : List Char) :
    Text.ofDigits (plainValues text) = Nat.ofDigitChars 10 text 0 :=
  List.foldl_map

theorem Plain.digits {text : List Char} (h : Plain text) : Digits text (plainValues text) := by
  induction text with
  | nil => exact .nil
  | cons c rest ih =>
    obtain ⟨hc, hrest⟩ := List.forall_mem_cons.mp h
    refine .cons ?_ (ih hrest)
    unfold Text.digitValue?
    exact if_pos (Char.isDigit_iff_toNat.mp hc)

theorem ofDigitChars_zeros_append (count : Nat) (digits : List Char) :
    Nat.ofDigitChars 10 (List.replicate count '0' ++ digits) 0 = Nat.ofDigitChars 10 digits 0 := by
  rw [Nat.ofDigitChars_append, Nat.ofDigitChars_replicate_zero, Nat.mul_zero]

theorem ofDigitChars_append_zeros (digits : List Char) (count : Nat) :
    Nat.ofDigitChars 10 (digits ++ List.replicate count '0') 0 =
      Nat.ofDigitChars 10 digits 0 * 10 ^ count := by
  rw [Nat.ofDigitChars_append, Nat.ofDigitChars_replicate_zero, Nat.mul_comm]

/-! ## What a text denotes -/

/-- A text without a sign in front, and the number that it denotes. -/
inductive Denotes : List Char → ℚ → Prop where
  | intro {mantissa exponent : List Char} {whole fraction : List Nat} {scale : Int}
      (digits : Mantissa mantissa whole fraction) (power : Exponent exponent scale) :
      Denotes (mantissa ++ exponent)
        (Text.ofDigits (whole ++ fraction) * 10 ^ (scale - fraction.length))

/-- After a sign it is a numeral, and it is read as every other numeral of this sign and magnitude. -/
theorem Denotes.exists_numeral {sign text : List Char} {d : Decimal} (h : Denotes text d.magnitude)
    (side : Sign sign d.negative) :
    ∃ d', Numeral (sign ++ text) d' ∧ d'.toBinary64 = d.toBinary64 := by
  generalize hmagnitude : d.magnitude = x at h
  cases h with
  | intro digits power =>
    exact ⟨_, .intro side digits power, Decimal.toBinary64_congr rfl hmagnitude.symm⟩

section plain

variable {digits more exponent : List Char} {scale : Int} (plain : Plain digits)
  (some : digits ≠ [])
include plain some

theorem denotes_whole (power : Exponent exponent scale) :
    Denotes (digits ++ exponent) (Nat.ofDigitChars 10 digits 0 * 10 ^ scale) := by
  have hdenotes := Denotes.intro (.whole plain.digits (by simpa [plainValues] using some)) power
  rwa [List.append_nil, ofDigits_plainValues, List.length_nil, Nat.cast_zero, sub_zero] at hdenotes

theorem denotes_fraction (after : Plain more) (power : Exponent exponent scale) :
    Denotes (digits ++ '.' :: more ++ exponent)
      (Nat.ofDigitChars 10 (digits ++ more) 0 * 10 ^ (scale - more.length)) := by
  have hdenotes := Denotes.intro
    (.fraction plain.digits (by simpa [plainValues] using some) after.digits) power
  rwa [plainValues, plainValues, ← List.map_append, ← plainValues, ofDigits_plainValues,
    List.length_map] at hdenotes

end plain

end Numeral

open Numeral

namespace Decimal

/-! ## The layouts -/

theorem exponent_exponentMark (exponent : Int) : Exponent (exponentMark exponent) exponent := by
  -- a zero in front of a single digit changes nothing
  have hpadded : ∃ zeros, (if (Nat.toDigits 10 exponent.natAbs).length < 2
      then '0' :: Nat.toDigits 10 exponent.natAbs else Nat.toDigits 10 exponent.natAbs) =
        List.replicate zeros '0' ++ Nat.toDigits 10 exponent.natAbs := by
    split
    · exact ⟨1, rfl⟩
    · exact ⟨0, rfl⟩
  obtain ⟨zeros, hzeros⟩ := hpadded
  have hplain := plain_append.mpr ⟨plain_zeros zeros, plain_toDigits exponent.natAbs⟩
  have hvalue : Nat.ofDigitChars 10 (List.replicate zeros '0' ++ Nat.toDigits 10 exponent.natAbs) 0 =
      exponent.natAbs := by
    rw [ofDigitChars_zeros_append, Nat.ofDigitChars_toDigits (by decide) (by decide)]
  have hsome : plainValues (List.replicate zeros '0' ++ Nat.toDigits 10 exponent.natAbs) ≠ [] := by
    simp [plainValues, Nat.toDigits_ne_nil]
  unfold exponentMark
  simp only [hzeros]
  by_cases hnegative : exponent < 0
  · have hexponent := Exponent.marked (.inl rfl) .minus hplain.digits hsome
    rw [ofDigits_plainValues, hvalue, Binary64.signed, if_pos rfl] at hexponent
    rw [if_pos hnegative]
    rwa [show -(exponent.natAbs : Int) = exponent by omega] at hexponent
  · have hexponent := Exponent.marked (.inl rfl) .plus hplain.digits hsome
    rw [ofDigits_plainValues, hvalue, Binary64.signed, if_neg Bool.false_ne_true] at hexponent
    rw [if_neg hnegative]
    rwa [show (exponent.natAbs : Int) = exponent by omega] at hexponent

/-- What follows a whole number does not change it. -/
def Style.Neutral (style : Style) : Prop :=
  style.wholeMark = [] ∨ style.wholeMark = ['.', '0']

theorem neutral_shortStyle : shortStyle.Neutral := .inr rfl

section digits

variable {digits : List Char} (plain : Plain digits) (some : digits ≠ [])
include plain some

theorem denotes_wholeMark {style : Style} (neutral : style.Neutral) :
    Denotes (digits ++ style.wholeMark) (Nat.ofDigitChars 10 digits 0) := by
  rcases neutral with hmark | hmark
  · have hdenotes := denotes_whole plain some .absent
    rw [hmark]
    rwa [zpow_zero, mul_one] at hdenotes
  · have hdenotes := denotes_fraction plain some (plain_zeros 1) .absent
    have hvalue : ((Nat.ofDigitChars 10 (digits ++ List.replicate 1 '0') 0 : ℕ) : ℚ) *
        10 ^ (0 - (List.replicate 1 '0').length : ℤ) = Nat.ofDigitChars 10 digits 0 := by
      rw [ofDigitChars_append_zeros, List.length_replicate]
      push_cast
      ring
    rw [hmark]
    rwa [hvalue, List.append_nil] at hdenotes

theorem denotes_scientific (exponent : Int) :
    Denotes (scientific digits exponent)
      (Nat.ofDigitChars 10 digits 0 * 10 ^ (exponent + 1 - digits.length)) := by
  obtain ⟨digit, rest, rfl⟩ := List.exists_cons_of_ne_nil some
  cases rest with
  | nil =>
    have hdenotes := denotes_whole plain some (exponent_exponentMark exponent)
    rwa [List.length_singleton, Nat.cast_one, add_sub_cancel_right]
  | cons next more =>
    have hplain := plain_append.mp (show Plain ([digit] ++ next :: more) from plain)
    have hdenotes := denotes_fraction hplain.1 (List.cons_ne_nil _ _) hplain.2
      (exponent_exponentMark exponent)
    rwa [show exponent + 1 - ((digit :: next :: more).length : ℤ) =
      exponent - ((next :: more).length : ℤ) by
        rw [List.length_cons, Nat.cast_succ, add_sub_add_right_eq_sub]]

theorem denotes_positional {style : Style} (neutral : style.Neutral) (exponent : Int) :
    Denotes (positional style.wholeMark digits exponent)
      (Nat.ofDigitChars 10 digits 0 * 10 ^ (exponent + 1 - digits.length)) := by
  cases exponent with
  | negSucc before =>
    have hplain := plain_append.mpr ⟨plain_zeros before, plain⟩
    have hdenotes := denotes_fraction (plain_zeros 1) (List.cons_ne_nil _ _) hplain .absent
    rw [ofDigitChars_zeros_append, ofDigitChars_zeros_append, List.append_nil, List.length_append,
      List.length_replicate] at hdenotes
    rwa [show Int.negSucc before + 1 - (digits.length : ℤ) =
      0 - ((before + digits.length : ℕ) : ℤ) by omega]
  | ofNat before =>
    rw [Int.ofNat_eq_natCast]
    by_cases hshort : digits.length ≤ before + 1
    · -- zeros up to the point
      have hdenotes := @denotes_wholeMark (digits ++ List.replicate (before + 1 - digits.length) '0')
        (plain_append.mpr ⟨plain, plain_zeros _⟩) (List.append_ne_nil_of_left_ne_nil some _) _ neutral
      rw [ofDigitChars_append_zeros] at hdenotes
      rw [show (before : ℤ) + 1 - digits.length = ((before + 1 - digits.length : ℕ) : ℤ) by omega,
        zpow_natCast]
      simp only [positional, if_pos hshort]
      exact_mod_cast hdenotes
    · have hplain := plain_append.mp
        (show Plain (digits.take (before + 1) ++ digits.drop (before + 1)) by
          rwa [List.take_append_drop])
      have hsome : digits.take (before + 1) ≠ [] := by
        simp [some]
      have hdenotes := denotes_fraction hplain.1 hsome hplain.2 .absent
      rw [List.take_append_drop, List.append_nil, List.length_drop] at hdenotes
      rw [show (before : ℤ) + 1 - digits.length = 0 - ((digits.length - (before + 1) : ℕ) : ℤ) by
        omega]
      simpa only [positional, if_neg hshort] using hdenotes

end digits

/-- A positive number is the one that its significant digits make up, with zeros after them. -/
theorem trimmedDigits_spec {coefficient : Nat} (positive : coefficient ≠ 0) :
    ∃ zeros, Plain (trimmedDigits coefficient) ∧ trimmedDigits coefficient ≠ [] ∧
      (Nat.toDigits 10 coefficient).length = (trimmedDigits coefficient).length + zeros ∧
      coefficient = Nat.ofDigitChars 10 (trimmedDigits coefficient) 0 * 10 ^ zeros := by
  have hsplit : trimmedDigits coefficient ++ (Nat.toDigits 10 coefficient).rtakeWhile (· = '0') =
      Nat.toDigits 10 coefficient := List.rdropWhile_append_rtakeWhile
  have hzeros : ∀ c ∈ (Nat.toDigits 10 coefficient).rtakeWhile (· = '0'), c = '0' := by
    intro c hc
    have hzero := List.mem_rtakeWhile_imp hc
    exact of_decide_eq_true hzero
  rw [List.eq_replicate_of_mem hzeros] at hsplit
  generalize ((Nat.toDigits 10 coefficient).rtakeWhile (· = '0')).length = zeros at hsplit
  have hplain := plain_toDigits coefficient
  rw [← hsplit] at hplain
  have hvalue : coefficient = Nat.ofDigitChars 10 (trimmedDigits coefficient) 0 * 10 ^ zeros := by
    rw [← ofDigitChars_append_zeros, hsplit, Nat.ofDigitChars_toDigits (by decide) (by decide)]
  refine ⟨zeros, (plain_append.mp hplain).1, ?_, ?_, hvalue⟩
  · intro hnone
    rw [hnone, Nat.ofDigitChars_nil, Nat.zero_mul] at hvalue
    exact positive hvalue
  · rw [← hsplit, List.length_append, List.length_replicate]

/-- The text of a positive number denotes it. -/
theorem denotes_layout {style : Style} (neutral : style.Neutral) {coefficient : Nat}
    (positive : coefficient ≠ 0) (exponent : Int) :
    Denotes (layout style coefficient exponent) (coefficient * 10 ^ exponent) := by
  obtain ⟨zeros, hplain, hsome, hlength, hvalue⟩ := trimmedDigits_spec positive
  unfold layout
  simp only
  generalize hfirst : exponent + ((Nat.toDigits 10 coefficient).length : ℤ) - 1 = first
  -- both layouts denote the significant digits, moved by the zeros that are left out
  have hmagnitude : (coefficient : ℚ) * 10 ^ exponent =
      Nat.ofDigitChars 10 (trimmedDigits coefficient) 0 *
        10 ^ (first + 1 - (trimmedDigits coefficient).length) := by
    have hmoved : first + 1 - (trimmedDigits coefficient).length = zeros + exponent := by omega
    have hcast : (coefficient : ℚ) =
        Nat.ofDigitChars 10 (trimmedDigits coefficient) 0 * 10 ^ zeros := by exact_mod_cast hvalue
    rw [hmoved, zpow_add₀ (by norm_num), zpow_natCast, ← mul_assoc, ← hcast]
  rw [hmagnitude]
  split
  · exact denotes_positional hplain hsome neutral first
  · exact denotes_scientific hplain hsome first

/-! ## The fewest digits -/

/-- All digits of a double read back as it. -/
theorem units_expansion (m : Magnitude) : units (m.units * Nat.pow 5 1074) (-1074) = m.units := by
  have hexponent : (-1074 : Int) = .negSucc 1073 := rfl
  have hplaces : 1073 + 1 = unitExponent := rfl
  have hunit : unitExponent = 1074 := rfl
  rw [hexponent, ← hunit, units]
  unfold unitsPerOne
  rw [hplaces]
  -- the number of places does not matter, and no power is to be evaluated
  generalize unitExponent = places
  rw [Nat.pow_eq, Nat.pow_eq, Nat.pow_eq, Nat.mul_assoc, ← Nat.mul_pow]
  exact Binary64.roundUnits_mul_right (Nat.pow_pos (by decide)) m.representable.2

theorem units_shortest (m : Magnitude) :
    units (shortest m.units).1 (shortest m.units).2 = m.units := by
  unfold shortest
  simp only
  generalize (List.range 17).map _ = candidates
  cases hfound : candidates.findSome? _ with
  | none => exact units_expansion m
  | some found =>
    obtain ⟨exponent, _, hexponent⟩ := List.exists_of_findSome?_eq_some hfound
    obtain ⟨coefficient, hcoefficient, rfl⟩ := Option.map_eq_some_iff.mp hexponent
    exact units_of_readingBack? hcoefficient

end Decimal

namespace Binary64

theorem sign_signText (negative : Bool) : Sign (signText negative) negative := by
  cases negative
  · exact .absent
  · exact .minus

/-- The digits of a finite double, laid out after its sign, are a numeral of the number they make up. -/
theorem exists_numeral_write {style : Decimal.Style} (neutral : style.Neutral) (digits : Nat → Nat × Int)
    {m : Magnitude} (positive : m.units ≠ 0 → (digits m.units).1 ≠ 0) (negative : Bool) :
    ∃ d, Numeral
        (write (fun units =>
          if units = 0 then '0' :: style.wholeMark
          else Decimal.layout style (digits units).1 (digits units).2) (finite negative m)).toList d ∧
      d.toBinary64 =
        if m.units = 0 then zero negative
        else Decimal.toBinary64 ⟨negative, (digits m.units).1, (digits m.units).2⟩ := by
  rw [write, String.toList_ofList]
  split
  · have hdenotes := Decimal.denotes_wholeMark (plain_zeros 1) (List.cons_ne_nil _ _) neutral
    exact @Denotes.exists_numeral _ _ ⟨negative, 0, 0⟩
      (by simpa [Decimal.magnitude, Nat.ofDigitChars] using hdenotes) (sign_signText negative)
  · next hpositive =>
    have hdenotes := Decimal.denotes_layout neutral (positive hpositive) (digits m.units).2
    exact @Denotes.exists_numeral _ _ ⟨negative, _, _⟩ hdenotes (sign_signText negative)

/-- The text of a finite double is a numeral of this double. -/
theorem exists_numeral_shortText (negative : Bool) (m : Magnitude) :
    ∃ d, Numeral (finite negative m).shortText.toList d ∧ d.toBinary64 = finite negative m := by
  have hunits := Decimal.units_shortest m
  have hpositive : m.units ≠ 0 → (Decimal.shortest m.units).1 ≠ 0 := by
    intro hpositive hzero
    rw [Decimal.units_of_coefficient_eq_zero (d := ⟨false, _, _⟩) hzero] at hunits
    exact hpositive hunits.symm
  obtain ⟨d, hnumeral, hvalue⟩ :=
    exists_numeral_write Decimal.neutral_shortStyle Decimal.shortest hpositive negative
  refine ⟨d, hnumeral, hvalue.trans ?_⟩
  split
  · next hzero =>
    obtain ⟨units, representable⟩ := m
    cases hzero
    unfold zero
    rfl
  · rw [Decimal.toBinary64_eq_ofUnits, hunits, ofUnits_units]

/-- The digits of an integer are a numeral of it. -/
theorem exists_numeral_toString (number : Int) :
    ∃ d, Numeral (toString number).toList d ∧
      d.toBinary64 = Decimal.toBinary64 ⟨decide (number < 0), number.natAbs, 0⟩ := by
  have hdenotes : Denotes (Nat.toDigits 10 number.natAbs) (number.natAbs * 10 ^ (0 : ℤ)) := by
    have hwhole := denotes_whole (plain_toDigits number.natAbs) Nat.toDigits_ne_nil .absent
    rwa [List.append_nil, Nat.ofDigitChars_toDigits (by decide) (by decide)] at hwhole
  have htext : (toString number).toList =
      signText (decide (number < 0)) ++ Nat.toDigits 10 number.natAbs := by
    cases number with
    | ofNat magnitude =>
      show (toString magnitude).toList = _
      rw [Nat.toString_eq_ofList_toDigits, String.toList_ofList]
      rfl
    | negSucc below =>
      show ("-" ++ toString (below + 1)).toList = _
      rw [Nat.toString_eq_ofList_toDigits, String.toList_append, String.toList_ofList,
        String.toList_ofList, decide_eq_true (Int.negSucc_lt_zero below)]
      rfl
  rw [htext]
  exact @Denotes.exists_numeral _ _ ⟨_, _, 0⟩ hdenotes (sign_signText _)

end Binary64

end SqlGauge
