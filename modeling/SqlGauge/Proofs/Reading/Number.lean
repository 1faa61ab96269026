import SqlGauge.Measurement
import SqlGauge.Proofs.Number.Grammar

/-!
# Which texts are measurements

`Measurement.Number` says which texts are read as a number, and as which: a numeral, or a word for
infinity or for what is not a number, in any case. `Measurement.Misspelled` says which texts are
taken for such a word although they are none, because a dotless or a dotted capital `i` stands in
them for the letter. A text is read as the number that it is, a misspelled word is refused by the
conversion, and every other text is no number (`Measurement.read_eq_ok_iff`,
`Measurement.read_eq_refused_iff`, `Measurement.read_eq_notANumber_iff`).
-/

namespace SqlGauge.Measurement

open Numeral (Sign)

/-! ## Words -/

/-- A word and the number it stands for after a sign; true is the minus sign. -/
inductive Word (negative : Bool) : List Char → Binary64 → Prop where
  | short : Word negative "inf".toList (.infinite negative)
  | long : Word negative "infinity".toList (.infinite negative)
  | nan : Word negative "nan".toList .nan

/-- The dotless and the dotted capital `i`. -/
def oddLetters : List Char := ['\u0131', '\u0130']

theorem forall_oddLetters {P : Char → Prop} (dotless : P '\u0131') (dotted : P '\u0130') :
    ∀ odd ∈ oddLetters, P odd := by
  intro odd hodd
  rcases List.mem_cons.mp hodd with rfl | hother
  · exact dotless
  · rw [List.mem_singleton.mp hother]
    exact dotted

/-- The letter that a character is taken for. -/
def folded (c : Char) : Char :=
  if c ∈ oddLetters then 'i' else c.toLower

/-- A text, and the number that it is. -/
inductive Number : List Char → Binary64 → Prop where
  | word {sign body : List Char} {negative : Bool} {value : Binary64} (side : Sign sign negative)
      (word : Word negative (body.map Char.toLower) value) : Number (sign ++ body) value
  | numeral {text : List Char} {d : Decimal} (numeral : Numeral text d) :
      Number text d.toBinary64

/-- A text that is taken for a word, but has a letter in it that is none. -/
inductive Misspelled : List Char → Prop where
  | intro {sign body : List Char} {negative : Bool} {value : Binary64} (side : Sign sign negative)
      (word : Word negative (body.map folded) value) (odd : ∃ c ∈ body, c ∈ oddLetters) :
      Misspelled (sign ++ body)

/-! ## Letters -/

/-- The letters of the words. -/
def wordLetters : List Char := ['i', 'n', 'f', 't', 'y', 'a']

theorem Word.mem_letters {negative : Bool} {word : List Char} {value : Binary64}
    (h : Word negative word value) : ∀ letter ∈ word, letter ∈ wordLetters := by
  cases h <;> simp [wordLetters]

/-- Only a character of the ASCII range has a lower case in it. -/
theorem toNat_lt_of_toLower {c : Char} (h : c.toLower.toNat < 0x80) : c.toNat < 0x80 := by
  unfold Char.toLower at h
  split at h
  · next hupper =>
    have hhigh : c.toNat ≤ 90 := hupper.2
    omega
  · exact h

theorem ascii_of_mem_wordLetters : ∀ letter ∈ wordLetters, letter.toNat < 0x80 := by
  simp [wordLetters]

/-- The lower case of an odd letter is no letter of a word. -/
theorem toLower_odd : ∀ odd ∈ oddLetters, odd.toLower ∉ wordLetters :=
  forall_oddLetters (by decide) (by decide)

/-- A character taken for a letter of a word is an odd one, or one of the ASCII range. -/
theorem odd_or_ascii {c : Char} (h : folded c ∈ wordLetters) : c ∈ oddLetters ∨ c.toNat < 0x80 := by
  unfold folded at h
  split at h
  · next hodd => exact .inl hodd
  · exact .inr (toNat_lt_of_toLower (ascii_of_mem_wordLetters _ h))

theorem ascii_iff_not_odd {c : Char} (h : folded c ∈ wordLetters) :
    c.toNat < 0x80 ↔ c ∉ oddLetters := by
  have hhigh : ∀ odd ∈ oddLetters, ¬ odd.toNat < 0x80 :=
    forall_oddLetters (by decide) (by decide)
  constructor
  · intro hascii hodd
    exact hhigh c hodd hascii
  · intro hodd
    exact (odd_or_ascii h).resolve_left hodd

/-- What is taken for a letter starts no numeral, and is no sign. -/
theorem not_numeral_of_folded {c : Char} (h : folded c ∈ wordLetters) :
    (Text.digitValue? c = none ∧ c ≠ '.') ∧ c ≠ '-' ∧ c ≠ '+' := by
  rcases odd_or_ascii h with hodd | hascii
  · have hall : ∀ odd ∈ oddLetters,
        (Text.digitValue? odd = none ∧ odd ≠ '.') ∧ odd ≠ '-' ∧ odd ≠ '+' :=
      forall_oddLetters (by decide) (by decide)
    exact hall c hodd
  · have hall : ∀ code < 0x80, folded (Char.ofNat code) ∈ wordLetters →
        (Text.digitValue? (Char.ofNat code) = none ∧ Char.ofNat code ≠ '.') ∧
          Char.ofNat code ≠ '-' ∧ Char.ofNat code ≠ '+' := by
      decide
    have hc := hall c.toNat hascii
    rw [Char.ofNat_toNat] at hc
    exact hc h

theorem isLetter_iff {letter c : Char} (h : letter ∈ wordLetters) :
    isLetter letter c = true ↔ folded c = letter := by
  have hmem : c ∈ oddLetters ↔ c = '\u0131' ∨ c = '\u0130' := by
    simp only [oddLetters, List.mem_cons, List.not_mem_nil, or_false]
  unfold isLetter folded
  simp only [Bool.or_eq_true, Bool.and_eq_true, decide_eq_true_eq, ← hmem]
  by_cases hc : c ∈ oddLetters
  · have hlower : c.toLower ≠ letter := fun heq => toLower_odd c hc (heq ▸ h)
    simp only [hlower, hc, false_or, and_true, if_true]
    exact eq_comm
  · simp only [hc, and_false, or_false, if_false]

/-! ## Words that are read -/

theorem spells_iff {word text : List Char} (h : ∀ letter ∈ word, letter ∈ wordLetters) :
    spells word text = true ↔ text.map folded = word := by
  induction word generalizing text with
  | nil => cases text <;> simp [spells]
  | cons letter word ih =>
    cases text with
    | nil => simp [spells]
    | cons c text =>
      obtain ⟨hletter, hword⟩ := List.forall_mem_cons.mp h
      rw [spells, Bool.and_eq_true, isLetter_iff hletter, ih hword, List.map_cons, List.cons.injEq]

theorem word?_eq_some_iff {negative : Bool} {text : List Char} {value : Binary64} :
    word? negative text = some value ↔ Word negative (text.map folded) value := by
  have hshort := @spells_iff _ text (@Word.short negative).mem_letters
  have hlong := @spells_iff _ text (@Word.long negative).mem_letters
  have hnan := @spells_iff _ text (@Word.nan negative).mem_letters
  unfold word?
  simp only [Bool.or_eq_true, hshort, hlong, hnan]
  generalize text.map folded = folding
  constructor
  · intro h
    split at h
    · next hinfinity =>
      cases h
      rcases hinfinity with rfl | rfl
      · exact .short
      · exact .long
    · split at h
      · next hword =>
        cases h
        subst hword
        exact .nan
      · cases h
  · intro h
    cases h <;> rfl

/-- A word after a sign is what is left when the sign has been taken. -/
theorem Word.takeSign {sign body : List Char} {negative : Bool} {value : Binary64}
    (side : Sign sign negative) (h : Word negative (body.map folded) value) :
    SqlGauge.takeSign (sign ++ body) = (negative, body) := by
  refine Numeral.takeSign_append side ?_
  intro c hc
  have hletter := h.mem_letters _ (List.mem_map_of_mem (List.mem_of_mem_head? hc))
  exact (not_numeral_of_folded hletter).2

/-- What is taken for a word is of the ASCII range just if it has no odd letter. -/
theorem Word.ascii_iff {body : List Char} {negative : Bool} {value : Binary64}
    (h : Word negative (body.map folded) value) :
    (body.all fun c => c.toNat < 0x80) = true ↔ ¬ ∃ c ∈ body, c ∈ oddLetters := by
  have hletters : ∀ c ∈ body, folded c ∈ wordLetters := fun c hc =>
    h.mem_letters _ (List.mem_map_of_mem hc)
  rw [List.all_eq_true]
  constructor
  · rintro hascii ⟨c, hc, hodd⟩
    exact (ascii_iff_not_odd (hletters c hc)).mp (of_decide_eq_true (hascii c hc)) hodd
  · intro hodd c hc
    exact decide_eq_true ((ascii_iff_not_odd (hletters c hc)).mpr fun hcodd => hodd ⟨c, hc, hcodd⟩)

/-- Without an odd letter a word that is taken for one is one. -/
theorem map_folded_eq {body : List Char} (h : ¬ ∃ c ∈ body, c ∈ oddLetters) :
    body.map folded = body.map Char.toLower :=
  List.map_congr_left fun c hc => if_neg fun hodd => h ⟨c, hc, hodd⟩

/-- A word is taken for itself, and has no odd letter. -/
theorem Word.folded {body : List Char} {negative : Bool} {value : Binary64}
    (h : Word negative (body.map Char.toLower) value) :
    Word negative (body.map Measurement.folded) value ∧ ¬ ∃ c ∈ body, c ∈ oddLetters := by
  have hodd : ¬ ∃ c ∈ body, c ∈ oddLetters := by
    rintro ⟨c, hc, hcodd⟩
    exact toLower_odd c hcodd (h.mem_letters _ (List.mem_map_of_mem hc))
  exact ⟨by rwa [map_folded_eq hodd], hodd⟩

/-- A mantissa starts with a digit or a point. -/
theorem head_mantissa {mantissa : List Char} {whole fraction : List Nat}
    (h : Numeral.Mantissa mantissa whole fraction) :
    ∃ c rest, mantissa = c :: rest ∧ ¬ (Text.digitValue? c = none ∧ c ≠ '.') := by
  have hdigits : ∀ {digits : List Char} {values : List Nat}, Numeral.Digits digits values →
      values ≠ [] → ∃ c rest, digits = c :: rest ∧ ¬ (Text.digitValue? c = none ∧ c ≠ '.') := by
    intro digits values hdigits hsome
    cases hdigits with
    | nil => exact absurd rfl hsome
    | @cons c value rest _ digit _ =>
      refine ⟨c, rest, rfl, fun hnone => ?_⟩
      rw [digit] at hnone
      cases hnone.1
  cases h with
  | whole before hsome => exact hdigits before hsome
  | @fraction _ more _ _ before hsome _ =>
    obtain ⟨c, rest, rfl, hc⟩ := hdigits before hsome
    exact ⟨c, rest ++ '.' :: more, rfl, hc⟩
  | point _ _ => exact ⟨'.', _, rfl, fun hnone => hnone.2 rfl⟩

/-- A numeral is not taken for a word. -/
theorem word?_of_numeral {text : List Char} {d : Decimal} (h : Numeral text d) :
    word? (SqlGauge.takeSign text).1 (SqlGauge.takeSign text).2 = none := by
  cases h with
  | @intro sign mantissa exponent negative whole fraction scale side digits power =>
    rw [Numeral.takeSign_append side (Numeral.head?_mantissa digits exponent)]
    refine Option.eq_none_iff_forall_ne_some.mpr fun value hword => ?_
    obtain ⟨c, rest, rfl, hc⟩ := head_mantissa digits
    have hletter := (word?_eq_some_iff.mp hword).mem_letters _ List.mem_cons_self
    exact hc (not_numeral_of_folded hletter).1

/-! ## The reader -/

/-- What is taken for a word is read as it if all of it is of the ASCII range. -/
theorem read_of_word {text : String} {sign body : List Char} {negative : Bool} {value : Binary64}
    (htext : text.toList = sign ++ body) (side : Sign sign negative)
    (word : Word negative (body.map folded) value) :
    read (some text) =
      if body.all fun c => c.toNat < 0x80 then .ok value
      else .error (.refusal (.notAFloat text)) := by
  unfold read
  simp only [htext, word.takeSign side, word?_eq_some_iff.mpr word]

theorem read_of_misspelled {text : String} (h : Misspelled text.toList) :
    read (some text) = .error (.refusal (.notAFloat text)) := by
  generalize htext : text.toList = chars at h
  cases h with
  | intro side word odd =>
    rw [read_of_word htext side word]
    exact if_neg fun hascii => (word.ascii_iff.mp hascii) odd

theorem read_of_number {text : String} {value : Binary64} (h : Number text.toList value) :
    read (some text) = .ok value := by
  generalize htext : text.toList = chars at h
  cases h with
  | word side word =>
    obtain ⟨hword, hodd⟩ := word.folded
    rw [read_of_word htext side hword]
    exact if_pos (hword.ascii_iff.mpr hodd)
  | numeral numeral =>
    unfold read
    simp only [htext, word?_of_numeral numeral, Decimal.read?_eq_some_iff_numeral.mpr numeral]

/-- A text is a number, or a misspelled word, or it is read as neither. -/
theorem number_or_misspelled_or (text : String) :
    (∃ value, Number text.toList value) ∨ Misspelled text.toList ∨
      read (some text) = .error (notANumber (some text)) := by
  obtain ⟨sign, htext, side⟩ := Numeral.sign_takeSign text.toList
  cases hword : word? (SqlGauge.takeSign text.toList).1 (SqlGauge.takeSign text.toList).2 with
  | some value =>
    have hfolded := word?_eq_some_iff.mp hword
    by_cases hodd : ∃ c ∈ (SqlGauge.takeSign text.toList).2, c ∈ oddLetters
    · exact .inr (.inl (htext ▸ .intro side hfolded hodd))
    · rw [map_folded_eq hodd] at hfolded
      exact .inl ⟨value, htext ▸ .word side hfolded⟩
  | none =>
    cases hdecimal : Decimal.read? text.toList with
    | some d => exact .inl ⟨_, .numeral (Decimal.read?_eq_some_iff_numeral.mp hdecimal)⟩
    | none =>
      refine .inr (.inr ?_)
      unfold read
      simp only [hword, hdecimal]

theorem read_eq_ok_iff {text : String} {value : Binary64} :
    read (some text) = .ok value ↔ Number text.toList value := by
  refine ⟨fun h => ?_, read_of_number⟩
  rcases number_or_misspelled_or text with ⟨number, hnumber⟩ | hmisspelled | hread
  · rw [read_of_number hnumber] at h
    cases h
    exact hnumber
  · rw [read_of_misspelled hmisspelled] at h
    cases h
  · rw [hread] at h
    cases h

theorem read_eq_refused_iff {text : String} :
    read (some text) = .error (.refusal (.notAFloat text)) ↔ Misspelled text.toList := by
  refine ⟨fun h => ?_, read_of_misspelled⟩
  rcases number_or_misspelled_or text with ⟨number, hnumber⟩ | hmisspelled | hread
  · rw [read_of_number hnumber] at h
    cases h
  · exact hmisspelled
  · rw [hread] at h
    cases h

/-- A text that is neither a number nor a misspelled word is no number. -/
theorem read_eq_notANumber_iff {text : String} :
    read (some text) = .error (notANumber (some text)) ↔
      (¬ ∃ value, Number text.toList value) ∧ ¬ Misspelled text.toList := by
  constructor
  · intro h
    rw [← read_eq_refused_iff, h]
    refine ⟨?_, fun hrefused => nomatch hrefused⟩
    rintro ⟨value, hnumber⟩
    rw [read_of_number hnumber] at h
    cases h
  · rintro ⟨hnone, hspelled⟩
    exact ((number_or_misspelled_or text).resolve_left hnone).resolve_left hspelled

end SqlGauge.Measurement
