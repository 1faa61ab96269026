import SqlGauge.Proofs.Number.Integer
import SqlGauge.Proofs.Number.Written

/-!
# Six significant digits

The general text of a double has six significant digits. There is always one that is not zero, since the
digits start where the number does (`Decimal.pow_leadingExponent_le`), so the text of a finite double is a
numeral, positional or with an exponent mark (`Binary64.exists_numeral_generalText`).

Six digits need not be enough to give the double back. Where they are, it does not matter whether they are
read as a numeral or as a number that people write, which may be more than a numeral
(`Lenient.real_of_numeral`).
-/

namespace SqlGauge

open Numeral

namespace Decimal

/-! ## The first digit -/

theorem digitCount_eq {number : Nat} (h : number ≠ 0) : digitCount number = Nat.log 10 number + 1 := by
  induction number using digitCount.induct with
  | case1 => exact absurd rfl h
  | case2 number hne ih =>
    rw [digitCount, if_neg hne]
    by_cases hsmall : number < 10
    · rw [Nat.div_eq_of_lt hsmall, digitCount, if_pos rfl, Nat.log_of_lt hsmall]
    · have hten : 10 ≤ number := Nat.le_of_not_lt hsmall
      rw [ih (by omega), Nat.log_of_one_lt_of_le (by decide) hten]

/-- A quotient is at least ten to the exponent of its first digit. -/
theorem pow_leadingExponent_le {num den : Nat} (hnum : 0 < num) (hden : 0 < den) :
    (10 : ℚ) ^ leadingExponent num den ≤ num / den := by
  have hpos : (0 : ℚ) < den := by exact_mod_cast hden
  unfold leadingExponent
  split
  · next hle =>
    have hwhole : num / den ≠ 0 := Nat.ne_of_gt (Nat.div_pos hle hden)
    have hlog : 10 ^ Nat.log 10 (num / den) * den ≤ num :=
      (Nat.le_div_iff_mul_le hden).mp (Nat.pow_log_le_self 10 hwhole)
    rw [digitCount_eq hwhole, Nat.cast_succ, add_sub_cancel_right, zpow_natCast, le_div_iff₀ hpos]
    exact_mod_cast hlog
  · next hlt =>
    have hparts : (den - 1) / num ≠ 0 := Nat.ne_of_gt (Nat.div_pos (by omega) hnum)
    have hlog : den ≤ 10 ^ (Nat.log 10 ((den - 1) / num) + 1) * num := by
      have hbelow : den - 1 < 10 ^ (Nat.log 10 ((den - 1) / num) + 1) * num :=
        (Nat.div_lt_iff_lt_mul hnum).mp (Nat.lt_pow_succ_log_self (by decide) _)
      omega
    have hpower : (0 : ℚ) < 10 ^ (Nat.log 10 ((den - 1) / num) + 1) := by positivity
    rw [digitCount_eq hparts, zpow_neg, zpow_natCast, le_div_iff₀ hpos, inv_mul_le_iff₀ hpower]
    exact_mod_cast hlog

/-- A quotient that is moved by an exponent below it is still at least one. -/
theorem shifted_le {num den : Nat} (hden : 0 < den) {exponent : Int}
    (h : (10 : ℚ) ^ exponent ≤ num / den) :
    (shifted num den exponent).2 ≤ (shifted num den exponent).1 ∧ 0 < (shifted num den exponent).2 := by
  have hpos : (0 : ℚ) < den := by exact_mod_cast hden
  cases exponent with
  | ofNat exponent =>
    rw [Int.ofNat_eq_natCast, zpow_natCast, le_div_iff₀ hpos] at h
    refine ⟨?_, Nat.mul_pos hden (Nat.pow_pos (by decide))⟩
    show den * 10 ^ exponent ≤ num
    rw [Nat.mul_comm]
    exact_mod_cast h
  | negSucc exponent =>
    have hpower : (0 : ℚ) < 10 ^ (exponent + 1) := by positivity
    rw [zpow_negSucc, le_div_iff₀ hpos, inv_mul_le_iff₀ hpower] at h
    refine ⟨?_, hden⟩
    show den ≤ num * 10 ^ (exponent + 1)
    rw [Nat.mul_comm]
    exact_mod_cast h

/-- Not all of the significant digits are zero. -/
theorem significant_ne_zero (precision : Nat) {num den : Nat} (hnum : 0 < num) (hden : 0 < den) :
    (significant precision num den).1 ≠ 0 := by
  have hbelow : (10 : ℚ) ^ (leadingExponent num den - (precision - 1 : Nat)) ≤ num / den := by
    refine le_trans ?_ (pow_leadingExponent_le hnum hden)
    exact zpow_le_zpow_right₀ (by norm_num) (by omega)
  obtain ⟨hle, hpos⟩ := shifted_le hden hbelow
  unfold significant
  dsimp only
  generalize shifted num den _ = moved at hle hpos
  have hone := Nat.div_pos hle hpos
  have hnear := roundHalfEven_eq_or moved.1 moved.2
  omega

theorem neutral_generalStyle : generalStyle.Neutral := .inl rfl

end Decimal

theorem Binary64.generalText_eq :
    generalText = write fun units =>
      if units = 0 then '0' :: Decimal.generalStyle.wholeMark
      else
        Decimal.layout Decimal.generalStyle (Decimal.significant 6 units unitsPerOne).1
          (Decimal.significant 6 units unitsPerOne).2 := by
  unfold generalText
  generalize unitsPerOne = unit
  rfl

/-- The general text of a finite double is a numeral. -/
theorem Binary64.exists_numeral_generalText (negative : Bool) (m : Magnitude) :
    ∃ d, Numeral (finite negative m).generalText.toList d := by
  have hunit : 0 < unitsPerOne := by decide +kernel
  rw [generalText_eq]
  obtain ⟨d, hnumeral, _⟩ := exists_numeral_write Decimal.neutral_generalStyle
    (Decimal.significant 6 · unitsPerOne) (m := m)
    (fun hpositive => Decimal.significant_ne_zero 6 (Nat.pos_of_ne_zero hpositive) hunit) negative
  exact ⟨d, hnumeral⟩

/-! ## Numerals among the numbers that people write -/

theorem isNumberBlank_of_isMark {c : Char} (h : isMark c = true) : Text.isNumberBlank c = false := by
  unfold isMark at h
  rcases Bool.or_eq_true_iff.mp h with hdigit | hmark
  · obtain ⟨value, hvalue⟩ := Option.isSome_iff_exists.mp hdigit
    exact Text.isNumberBlank_of_digit hvalue
  · have hmarks : (['-', '+', '.', 'e', 'E'].any Text.isNumberBlank) = false := by decide
    exact Bool.eq_false_iff.mpr (List.any_eq_false.mp hmarks c (List.contains_iff_mem.mp hmark))

namespace Lenient

theorem isGrouped_of_notMem {text : List Char} (h : '_' ∉ text) (afterDigit : Bool) :
    isGrouped afterDigit text = true := by
  induction text generalizing afterDigit with
  | nil => rfl
  | cons c rest ih =>
    obtain ⟨hc, hrest⟩ := List.ne_and_not_mem_of_not_mem_cons h
    rw [isGrouped]
    · exact ih hrest _
    · exact fun heq => hc heq.symm

/-- A word starts with a letter. -/
theorem word?_eq_none {negative : Bool} {c : Char} {rest : List Char}
    (hc : (Text.digitValue? c).isSome ∨ c = '.') : word? negative (c :: rest) = none := by
  have hletter : ∀ {first : Char} {word : List Char}, first = 'i' ∨ first = 'n' →
      String.ofList ((c :: rest).map Char.toLower) ≠ String.ofList (first :: word) := by
    intro first word hfirst heq
    have hlower : c.toLower = first := (List.cons.inj (String.ofList_injective heq)).1
    refine absurd hc ?_
    rcases hfirst with rfl | rfl
    · rcases @Measurement.eq_or_of_toLower c 'i' 'I' hlower rfl with rfl | rfl <;> decide
    · rcases @Measurement.eq_or_of_toLower c 'n' 'N' hlower rfl with rfl | rfl <;> decide
  have hinf := @hletter 'i' ['n', 'f'] (.inl rfl)
  have hinfinity := @hletter 'i' ['n', 'f', 'i', 'n', 'i', 't', 'y'] (.inl rfl)
  have hnan := @hletter 'n' ['a', 'n'] (.inr rfl)
  unfold word?
  rw [if_neg (not_or.mpr ⟨hinf, hinfinity⟩), if_neg hnan]

/-- A numeral is read as its nearest double. -/
theorem real_of_numeral {text : String} {d : Decimal} (h : Decimal.read? text.toList = some d) :
    real text = .ok d.toBinary64 := by
  have hblank : ∀ c ∈ text.toList, Text.isNumberBlank c = false :=
    fun c hc => isNumberBlank_of_isMark (Decimal.isMark_of_mem_read? h hc)
  have hunderscore : '_' ∉ text.toList := Decimal.notMem_of_read? h (by decide)
  -- nothing is taken off: there are neither blanks nor underscores
  have htrim : Text.trimBy Text.isNumberBlank text.toList = text.toList := by
    refine Text.trimBy_eq_iff.mpr ⟨[], [], ?_, List.forall_mem_nil _, List.forall_mem_nil _, ?_, ?_⟩
    · rw [List.nil_append, List.append_nil]
    · exact fun c hc => hblank c (List.mem_of_mem_head? hc)
    · exact fun c hc => hblank c (List.mem_reverse.mp (List.mem_of_mem_head? hc))
  have hfilter : text.toList.filter (· ≠ '_') = text.toList :=
    List.filter_eq_self.mpr fun c hc => decide_eq_true fun heq => hunderscore (heq ▸ hc)
  obtain ⟨c, rest, hbody, hc⟩ := Decimal.head?_of_read? h
  unfold real
  simp only [htrim, isGrouped_of_notMem hunderscore, hfilter, hbody, word?_eq_none hc, h,
    Bool.not_true, Bool.false_eq_true, if_false]

end Lenient

/-- Where six digits give a finite double back, the general text is a numeral of it. -/
theorem Binary64.exists_numeral_of_real {negative : Bool} {m : Magnitude}
    (h : Lenient.real (finite negative m).generalText = .ok (finite negative m)) :
    ∃ d, Numeral (finite negative m).generalText.toList d ∧ d.toBinary64 = finite negative m := by
  obtain ⟨d, hnumeral⟩ := exists_numeral_generalText negative m
  rw [Lenient.real_of_numeral (Decimal.read?_eq_some_iff_numeral.mpr hnumeral)] at h
  exact ⟨d, hnumeral, Except.ok.inj h⟩

end SqlGauge
