import SqlGauge.Decimal.Basic
import SqlGauge.Measurement

/-!
# The characters of a numeral

A numeral is written with digits, signs, a point and the letter of the exponent, and with nothing
else (`Decimal.isMark_of_mem_read?`). So no numeral is a word for infinity or for what is not a number,
and a cell that holds one is read as the nearest double (`Measurement.read_of_numeral`).
-/

namespace SqlGauge

/-! ## Characters -/

/-- Whether a character may stand in a numeral. -/
def isMark (c : Char) : Bool :=
  (Text.digitValue? c).isSome || ['-', '+', '.', 'e', 'E'].contains c

theorem isMark_of_digit {c : Char} (h : (Text.digitValue? c).isSome = true) : isMark c = true := by
  unfold isMark
  rw [h, Bool.true_or]

theorem mem_takeSign {c : Char} {text : List Char} (h : c ∈ text) :
    isMark c = true ∨ c ∈ (takeSign text).2 := by
  unfold takeSign
  split
  · rcases List.mem_cons.mp h with rfl | h
    · exact .inl rfl
    · exact .inr h
  · rcases List.mem_cons.mp h with rfl | h
    · exact .inl rfl
    · exact .inr h
  · exact .inr h

theorem mem_spanDigits {c : Char} {text : List Char} (h : c ∈ text) :
    isMark c = true ∨ c ∈ (Text.spanDigits text).2 := by
  induction text with
  | nil => exact .inr h
  | cons first rest ih =>
    cases hfirst : Text.digitValue? first with
    | none =>
      rw [Text.spanDigits_of_not_digit rest hfirst]
      exact .inr h
    | some value =>
      rw [Text.spanDigits_of_digit rest hfirst]
      rcases List.mem_cons.mp h with rfl | h
      · exact .inl (isMark_of_digit (by rw [hfirst]; rfl))
      · exact ih h

theorem mem_takeFraction {c : Char} {text : List Char} (h : c ∈ text) :
    isMark c = true ∨ c ∈ (takeFraction text).2 := by
  unfold takeFraction
  split
  · rcases List.mem_cons.mp h with rfl | h
    · exact .inl rfl
    · exact mem_spanDigits h
  · exact .inr h

/-- An exponent is a letter, maybe a sign, and digits. -/
theorem isMark_of_mem_exponent {c : Char} {text : List Char} {exponent : Int}
    (h : exponentOf? text = some exponent) (hc : c ∈ text) : isMark c = true := by
  cases text with
  | nil => exact absurd hc List.not_mem_nil
  | cons e rest =>
    simp only [exponentOf?] at h
    split at h
    · next hshape =>
      obtain ⟨hletter, _, hafter⟩ := hshape
      rcases List.mem_cons.mp hc with rfl | hc
      · rcases hletter with rfl | rfl <;> rfl
      · rcases mem_takeSign hc with hmark | hc
        · exact hmark
        · rcases mem_spanDigits hc with hmark | hc
          · exact hmark
          · rw [hafter] at hc
            exact absurd hc List.not_mem_nil
    · cases h

namespace Decimal

/-- What a text has to be like to be read as a numeral. -/
theorem read?_eq_some_iff {text : List Char} {d : Decimal} :
    read? text = some d ↔
      ∃ whole fraction afterWhole afterFraction exponent,
        Text.spanDigits (takeSign text).2 = (whole, afterWhole) ∧
        takeFraction afterWhole = (fraction, afterFraction) ∧
        ¬ (whole = [] ∧ fraction = []) ∧ exponentOf? afterFraction = some exponent ∧
        d = ⟨(takeSign text).1, Text.ofDigits (whole ++ fraction), exponent - fraction.length⟩ := by
  constructor
  · intro h
    simp only [read?] at h
    split at h
    · cases h
    · next hdigits =>
      obtain ⟨exponent, hexponent, rfl⟩ := Option.map_eq_some_iff.mp h
      exact ⟨_, _, _, _, exponent, rfl, rfl, hdigits, hexponent, rfl⟩
  · rintro ⟨whole, fraction, afterWhole, afterFraction, exponent, hwhole, hfraction, hdigits,
      hexponent, rfl⟩
    simp only [read?, hwhole, hfraction, if_neg hdigits, hexponent, Option.map_some]

/-- Nothing else stands in a numeral. -/
theorem isMark_of_mem_read? {c : Char} {text : List Char} {d : Decimal} (h : read? text = some d)
    (hc : c ∈ text) : isMark c = true := by
  obtain ⟨whole, fraction, afterWhole, afterFraction, exponent, hwhole, hfraction, _, hexponent, _⟩ :=
    read?_eq_some_iff.mp h
  rcases mem_takeSign hc with hmark | hc
  · exact hmark
  rcases mem_spanDigits hc with hmark | hc
  · exact hmark
  rw [hwhole] at hc
  rcases mem_takeFraction hc with hmark | hc
  · exact hmark
  rw [hfraction] at hc
  exact isMark_of_mem_exponent hexponent hc

theorem notMem_of_read? {c : Char} {text : List Char} {d : Decimal} (h : read? text = some d)
    (hc : isMark c = false) : c ∉ text := by
  intro hmem
  rw [isMark_of_mem_read? h hmem] at hc
  cases hc

theorem ne_nil_of_read? {text : List Char} {d : Decimal} (h : read? text = some d) : text ≠ [] := by
  rintro rfl
  cases h

/-- After its sign, a numeral starts with a digit or a point. -/
theorem head?_of_read? {text : List Char} {d : Decimal} (h : read? text = some d) :
    ∃ c rest, (takeSign text).2 = c :: rest ∧ ((Text.digitValue? c).isSome ∨ c = '.') := by
  obtain ⟨whole, fraction, afterWhole, afterFraction, exponent, hwhole, hfraction, hdigits, _, _⟩ :=
    read?_eq_some_iff.mp h
  cases hbody : (takeSign text).2 with
  | nil =>
    rw [hbody] at hwhole
    cases hwhole
    cases hfraction
    exact absurd ⟨rfl, rfl⟩ hdigits
  | cons c rest =>
    refine ⟨c, rest, rfl, ?_⟩
    cases hc : Text.digitValue? c with
    | some value => exact .inl rfl
    | none =>
      right
      rw [hbody, Text.spanDigits_of_not_digit rest hc] at hwhole
      cases hwhole
      -- without digits before it there is a fraction, which starts with the point
      unfold takeFraction at hfraction
      split at hfraction
      · next heq => exact (List.cons.inj heq).1
      · cases hfraction
        exact absurd ⟨rfl, rfl⟩ hdigits

end Decimal

/-! ## Cells -/

namespace Measurement

/-- Only the two cases of a letter have the same lower case. -/
theorem eq_or_of_toLower {c lower upper : Char} (h : c.toLower = lower)
    (hupper : lower.val = upper.val + ('a'.val - 'A'.val)) : c = lower ∨ c = upper := by
  unfold Char.toLower at h
  split at h
  · right
    apply Char.ext
    have hval := congrArg Char.val h
    simp only [hupper] at hval
    simpa using hval
  · exact .inl h

/-- The letters that words start with are neither digits nor the point. -/
theorem isLetter_eq_false {letter c : Char} (hletter : letter = 'i' ∨ letter = 'n')
    (hc : (Text.digitValue? c).isSome ∨ c = '.') : isLetter letter c = false := by
  cases hspelled : isLetter letter c with
  | false => rfl
  | true =>
    refine absurd hc ?_
    simp only [isLetter, Bool.or_eq_true, Bool.and_eq_true, decide_eq_true_eq] at hspelled
    rcases hspelled with hlower | ⟨_, rfl | rfl⟩
    · rcases hletter with rfl | rfl
      · rcases @eq_or_of_toLower c 'i' 'I' hlower rfl with rfl | rfl <;> decide
      · rcases @eq_or_of_toLower c 'n' 'N' hlower rfl with rfl | rfl <;> decide
    · decide
    · decide

theorem spells_eq_false {letter c : Char} {word rest : List Char} (h : isLetter letter c = false) :
    spells (letter :: word) (c :: rest) = false := by
  rw [spells, h, Bool.false_and]

/-- A word starts with a letter. -/
theorem word?_eq_none {negative : Bool} {c : Char} {rest : List Char}
    (hc : (Text.digitValue? c).isSome ∨ c = '.') : word? negative (c :: rest) = none := by
  have hinf : spells "inf".toList (c :: rest) = false :=
    spells_eq_false (isLetter_eq_false (.inl rfl) hc)
  have hinfinity : spells "infinity".toList (c :: rest) = false :=
    spells_eq_false (isLetter_eq_false (.inl rfl) hc)
  have hnan : spells "nan".toList (c :: rest) = false :=
    spells_eq_false (isLetter_eq_false (.inr rfl) hc)
  simp only [word?, hinf, hinfinity, hnan, Bool.or_self, Bool.false_eq_true, if_false]

/-- A cell that holds a numeral is read as the nearest double. -/
theorem read_of_numeral {text : String} {d : Decimal} (h : Decimal.read? text.toList = some d) :
    read (some text) = .ok d.toBinary64 := by
  obtain ⟨c, rest, hbody, hc⟩ := Decimal.head?_of_read? h
  simp only [read, hbody, word?_eq_none hc, h]

end Measurement

end SqlGauge
