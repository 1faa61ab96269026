import SqlGauge.Proofs.Number.Numeral

/-!
# The grammar of numerals

`Numeral` says which texts are numerals, and which number each of them denotes, part by part: an
optional sign, digits with an optional fraction or a point and digits, an optional exponent. It does
not say how a text is taken apart; the reader does that, and finds exactly the numerals
(`Decimal.read?_eq_some_iff_numeral`).
-/

namespace SqlGauge

/-! ## Parts of a numeral -/

namespace Numeral

/-- An optional sign; true is the minus sign. -/
inductive Sign : List Char → Bool → Prop where
  | absent : Sign [] false
  | plus : Sign ['+'] false
  | minus : Sign ['-'] true

/-- Decimal digits of any script, with their values. -/
inductive Digits : List Char → List Nat → Prop where
  | nil : Digits [] []
  | cons {c : Char} {value : Nat} {rest : List Char} {values : List Nat}
      (digit : Text.digitValue? c = some value) (more : Digits rest values) :
      Digits (c :: rest) (value :: values)

/-- Digits with an optional fraction, or a point and digits; with the digits before and after the
point. -/
inductive Mantissa : List Char → List Nat → List Nat → Prop where
  | whole {digits : List Char} {values : List Nat} (before : Digits digits values)
      (some : values ≠ []) : Mantissa digits values []
  | fraction {digits more : List Char} {values further : List Nat}
      (before : Digits digits values) (some : values ≠ []) (after : Digits more further) :
      Mantissa (digits ++ '.' :: more) values further
  | point {more : List Char} {further : List Nat} (after : Digits more further)
      (some : further ≠ []) : Mantissa ('.' :: more) [] further

/-- An optional exponent: its letter, an optional sign and digits. -/
inductive Exponent : List Char → Int → Prop where
  | absent : Exponent [] 0
  | marked {letter : Char} {sign digits : List Char} {negative : Bool} {values : List Nat}
      (mark : letter = 'e' ∨ letter = 'E') (side : Sign sign negative)
      (size : Digits digits values) (some : values ≠ []) :
      Exponent (letter :: (sign ++ digits)) (Binary64.signed negative (Text.ofDigits values))

end Numeral

open Numeral

/-- A numeral, and the number it denotes: the digits count as one whole number, which each digit
after the point divides by ten. -/
inductive Numeral : List Char → Decimal → Prop where
  | intro {sign mantissa exponent : List Char} {negative : Bool} {whole fraction : List Nat}
      {scale : Int} (side : Sign sign negative) (digits : Mantissa mantissa whole fraction)
      (power : Exponent exponent scale) :
      Numeral (sign ++ (mantissa ++ exponent))
        ⟨negative, Text.ofDigits (whole ++ fraction), scale - fraction.length⟩

/-! ## What the reader takes -/

namespace Numeral

theorem sign_takeSign (text : List Char) :
    ∃ sign, text = sign ++ (takeSign text).2 ∧ Sign sign (takeSign text).1 := by
  unfold takeSign
  split
  · exact ⟨['-'], rfl, .minus⟩
  · exact ⟨['+'], rfl, .plus⟩
  · exact ⟨[], rfl, .absent⟩

theorem digits_spanDigits (text : List Char) :
    ∃ digits, text = digits ++ (Text.spanDigits text).2 ∧
      Digits digits (Text.spanDigits text).1 := by
  induction text with
  | nil => exact ⟨[], rfl, .nil⟩
  | cons c rest ih =>
    cases hc : Text.digitValue? c with
    | none =>
      rw [Text.spanDigits_of_not_digit rest hc]
      exact ⟨[], rfl, .nil⟩
    | some value =>
      obtain ⟨digits, heq, hdigits⟩ := ih
      rw [Text.spanDigits_of_digit rest hc]
      exact ⟨c :: digits, congrArg (c :: ·) heq, .cons hc hdigits⟩

/-- The reader takes a mantissa off, if there are digits before or after the point. -/
theorem mantissa_take (text : List Char) {whole fraction : List Nat} {rest after : List Char}
    (hwhole : Text.spanDigits text = (whole, rest))
    (hfraction : takeFraction rest = (fraction, after)) (hsome : ¬ (whole = [] ∧ fraction = [])) :
    ∃ mantissa, text = mantissa ++ after ∧ Mantissa mantissa whole fraction := by
  obtain ⟨digits, htext, hdigits⟩ := digits_spanDigits text
  rw [hwhole] at htext hdigits
  unfold takeFraction at hfraction
  split at hfraction
  · next tail =>
    obtain ⟨more, htail, hmore⟩ := digits_spanDigits tail
    rw [hfraction] at htail hmore
    dsimp only at htext htail hdigits hmore
    rw [htail] at htext
    by_cases hnone : whole = []
    · -- no digits before the point, so there are some after it
      subst hnone
      cases hdigits
      exact ⟨'.' :: more, htext, .point hmore fun h => hsome ⟨rfl, h⟩⟩
    · refine ⟨digits ++ '.' :: more, ?_, .fraction hdigits hnone hmore⟩
      rw [htext, List.append_assoc, List.cons_append]
  · cases hfraction
    exact ⟨digits, htext, .whole hdigits fun h => hsome ⟨h, rfl⟩⟩

theorem exponent_exponentOf? {text : List Char} {scale : Int} (h : exponentOf? text = some scale) :
    Exponent text scale := by
  cases text with
  | nil =>
    cases h
    exact .absent
  | cons letter rest =>
    simp only [exponentOf?] at h
    split at h
    · next hshape =>
      cases h
      obtain ⟨hletter, hsome, hafter⟩ := hshape
      obtain ⟨sign, hrest, hsign⟩ := sign_takeSign rest
      obtain ⟨digits, htail, hdigits⟩ := digits_spanDigits (takeSign rest).2
      rw [hafter, List.append_nil] at htail
      rw [htail] at hrest
      have hmarked := Exponent.marked hletter hsign hdigits hsome
      rwa [← hrest] at hmarked
    · cases h

/-! ## What the grammar describes -/

theorem takeSign_append {sign : List Char} {negative : Bool} (h : Sign sign negative)
    {rest : List Char} (hrest : ∀ c ∈ rest.head?, c ≠ '-' ∧ c ≠ '+') :
    takeSign (sign ++ rest) = (negative, rest) := by
  cases h with
  | plus => rfl
  | minus => rfl
  | absent =>
    rw [List.nil_append]
    unfold takeSign
    split
    · exact absurd rfl (hrest '-' rfl).1
    · exact absurd rfl (hrest '+' rfl).2
    · rfl

theorem spanDigits_append {digits : List Char} {values : List Nat} (h : Digits digits values)
    {rest : List Char} (hrest : ∀ c ∈ rest.head?, Text.digitValue? c = none) :
    Text.spanDigits (digits ++ rest) = (values, rest) := by
  induction h with
  | nil =>
    cases rest with
    | nil => rfl
    | cons c rest => exact Text.spanDigits_of_not_digit rest (hrest c rfl)
  | @cons c value digits values hc _ ih =>
    rw [List.cons_append, Text.spanDigits_of_digit _ hc, ih]

/-- No digit is a sign. -/
theorem ne_sign_of_digit {c : Char} {value : Nat} (h : Text.digitValue? c = some value) :
    c ≠ '-' ∧ c ≠ '+' := by
  constructor
  · rintro rfl
    cases h
  · rintro rfl
    cases h

theorem head?_digits {digits : List Char} {values : List Nat} (h : Digits digits values)
    (hsome : values ≠ []) (rest : List Char) :
    ∀ c ∈ (digits ++ rest).head?, c ≠ '-' ∧ c ≠ '+' := by
  intro c hc
  cases h with
  | nil => exact absurd rfl hsome
  | cons digit _ =>
    cases hc
    exact ne_sign_of_digit digit

theorem head?_mantissa {mantissa : List Char} {whole fraction : List Nat}
    (h : Mantissa mantissa whole fraction) (rest : List Char) :
    ∀ c ∈ (mantissa ++ rest).head?, c ≠ '-' ∧ c ≠ '+' := by
  cases h with
  | whole before hsome => exact head?_digits before hsome rest
  | @fraction digits more _ _ before hsome after =>
    rw [List.append_assoc]
    exact head?_digits before hsome _
  | point after hsome =>
    rintro c ⟨⟩
    exact ⟨by decide, by decide⟩

/-- An exponent starts with neither a digit nor a point. -/
theorem head?_exponent {exponent : List Char} {scale : Int} (h : Exponent exponent scale) :
    ∀ c ∈ exponent.head?, Text.digitValue? c = none ∧ c ≠ '.' := by
  intro c hc
  cases h with
  | absent => cases hc
  | marked mark side size hsome =>
    cases hc
    rcases mark with rfl | rfl <;> decide

theorem exponentOf?_of_exponent {exponent : List Char} {scale : Int}
    (h : Exponent exponent scale) : exponentOf? exponent = some scale := by
  cases h with
  | absent => rfl
  | @marked letter sign digits negative values mark side size hsome =>
    have hhead := head?_digits size hsome []
    have hspan := @spanDigits_append _ _ size [] (fun _ hnone => nomatch hnone)
    rw [List.append_nil] at hhead hspan
    simp only [exponentOf?, takeSign_append side hhead, hspan]
    exact if_pos ⟨mark, hsome, trivial⟩

/-- A mantissa before an exponent is split into its digits. -/
theorem take_mantissa {mantissa exponent : List Char} {whole fraction : List Nat}
    (h : Mantissa mantissa whole fraction)
    (hhead : ∀ c ∈ exponent.head?, Text.digitValue? c = none ∧ c ≠ '.') :
    ∃ rest, Text.spanDigits (mantissa ++ exponent) = (whole, rest) ∧
      takeFraction rest = (fraction, exponent) ∧ ¬ (whole = [] ∧ fraction = []) := by
  have hdigit : ∀ c ∈ exponent.head?, Text.digitValue? c = none := fun c hc => (hhead c hc).1
  have hpoint : ∀ rest : List Char, ∀ c ∈ ('.' :: rest).head?, Text.digitValue? c = none := by
    rintro rest c ⟨⟩
    decide
  cases h with
  | whole before hsome =>
    refine ⟨exponent, spanDigits_append before hdigit, ?_, fun hnone => hsome hnone.1⟩
    unfold takeFraction
    split
    · exact absurd rfl (hhead '.' rfl).2
    · rfl
  | @fraction digits more _ _ before hsome after =>
    refine ⟨'.' :: (more ++ exponent), ?_, spanDigits_append after hdigit,
      fun hnone => hsome hnone.1⟩
    rw [List.append_assoc, List.cons_append]
    exact spanDigits_append before (hpoint _)
  | @point more _ after hsome =>
    exact ⟨'.' :: (more ++ exponent), spanDigits_append .nil (hpoint _),
      spanDigits_append after hdigit, fun hnone => hsome hnone.2⟩

end Numeral

/-- A text is read as a number just if it is a numeral of it. -/
theorem Decimal.read?_eq_some_iff_numeral {text : List Char} {d : Decimal} :
    Decimal.read? text = some d ↔ Numeral text d := by
  rw [Decimal.read?_eq_some_iff]
  constructor
  · rintro ⟨whole, fraction, rest, after, scale, hwhole, hfraction, hsome, hscale, rfl⟩
    obtain ⟨sign, htext, hsign⟩ := Numeral.sign_takeSign text
    obtain ⟨mantissa, hbody, hmantissa⟩ := Numeral.mantissa_take _ hwhole hfraction hsome
    have hnumeral := Numeral.intro hsign hmantissa (Numeral.exponent_exponentOf? hscale)
    rwa [← hbody, ← htext] at hnumeral
  · rintro @⟨_, _, exponent, _, _, _, _, side, digits, power⟩
    obtain ⟨rest, hwhole, hfraction, hsome⟩ :=
      Numeral.take_mantissa digits (Numeral.head?_exponent power)
    have hsign := Numeral.takeSign_append side (Numeral.head?_mantissa digits exponent)
    rw [hsign]
    exact ⟨_, _, rest, _, _, hwhole, hfraction, hsome, Numeral.exponentOf?_of_exponent power, rfl⟩

end SqlGauge
