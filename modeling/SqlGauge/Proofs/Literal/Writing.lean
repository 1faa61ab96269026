import SqlGauge.Proofs.Literal.Grammar

/-!
# Writing a text as a literal

`Literal.Writes` says which quoted literals write a text. Each character of it is written by itself, by
its letter, by the number of its code point, or byte by byte in UTF-8, and each of these choices is
free: the case of every single digit, and for every single byte whether its digits are hexadecimal or
octal.

Writing goes piece by piece, and the pieces stand for the bytes of the text whatever the choices were
(`Literal.Spells.yields`). So reading undoes writing (`Literal.read_of_writes`).
-/

namespace SqlGauge.Literal

open String (utf8EncodeChar)
open Text (hexValue? lowerHexDigit upperHexDigit)

/-! ## Digits -/

/-- A number in as many hexadecimal digits as the width says, each of them in one of its two cases. -/
inductive Hexadecimal : Nat → Nat → List Char → Prop where
  | nil : Hexadecimal 0 0 []
  | snoc {width number value : Nat} {digits : List Char} {digit : Char}
      (before : Hexadecimal width number digits) (small : value < 16)
      (shape : digit = lowerHexDigit value ∨ digit = upperHexDigit value) :
      Hexadecimal (width + 1) (16 * number + value) (digits ++ [digit])

/-- The octal digit of a value below 8. -/
def octalDigit (value : Nat) : Char :=
  Char.ofNat ('0'.toNat + value)

/-- A byte in three octal digits. -/
def octalDigits (byte : UInt8) : List Char :=
  [octalDigit (byte.toNat / 64), octalDigit (byte.toNat / 8 % 8), octalDigit (byte.toNat % 8)]

/-! ## Ways to write -/

/-- Items written one after the other, each of them in one of its ways. -/
inductive Series {α : Type} (Way : α → List Char → Prop) : List α → List Char → Prop where
  | nil : Series Way [] []
  | cons {item : α} {items : List α} {text more : List Char} (first : Way item text)
      (rest : Series Way items more) : Series Way (item :: items) (text ++ more)

/-- The ways to write a byte. -/
inductive SpellsByte (byte : UInt8) : List Char → Prop where
  | hexadecimal {digits : List Char} (number : Hexadecimal 2 byte.toNat digits) :
      SpellsByte byte ('\\' :: 'x' :: digits)
  | octal : SpellsByte byte ('\\' :: octalDigits byte)

/-- The ways to write a character between two quotes. -/
inductive Spells (quote c : Char) : List Char → Prop where
  | itself (bare : c ≠ quote) (unmarked : c ≠ '\\') (inline : c ≠ '\n') : Spells quote c [c]
  | letter {letter : Char} (named : (letter, c) ∈ letters) : Spells quote c ['\\', letter]
  | quote (same : c = quote) : Spells quote c ['\\', c]
  | point {letter : Char} {width : Nat} {digits : List Char}
      (size : (letter, width) ∈ pointLetters) (number : Hexadecimal width c.toNat digits) :
      Spells quote c ('\\' :: letter :: digits)
  | bytes {text : List Char} (each : Series SpellsByte (utf8EncodeChar c) text) :
      Spells quote c text

/-- A text and a literal that writes it. Between apostrophes there is one character. -/
inductive Writes : List Char → List Char → Prop where
  | text {text body : List Char} (each : Series (Spells '"') text body) :
      Writes text ('"' :: (body ++ ['"']))
  | character {c : Char} {body : List Char} (way : Spells '\'' c body) :
      Writes [c] ('\'' :: (body ++ ['\'']))

/-- Items that can each be written can be written one after the other. -/
theorem Series.exists_of_forall {α : Type} {Way : α → List Char → Prop}
    (h : ∀ item, ∃ text, Way item text) (items : List α) : ∃ text, Series Way items text := by
  induction items with
  | nil => exact ⟨[], .nil⟩
  | cons item items ih =>
    obtain ⟨text, htext⟩ := h item
    obtain ⟨more, hmore⟩ := ih
    exact ⟨text ++ more, .cons htext hmore⟩

/-- Every character has a way to be written, at least byte by byte. -/
theorem Spells.exists_text (quote c : Char) : ∃ text, Spells quote c text := by
  obtain ⟨text, htext⟩ :=
    Series.exists_of_forall (fun byte => ⟨_, SpellsByte.octal⟩) (utf8EncodeChar c)
  exact ⟨text, .bytes htext⟩

/-! ## What written digits stand for -/

/-- The digits of a number are read back as it, and none of them is a line feed. -/
theorem Hexadecimal.positional {width number : Nat} {digits : List Char}
    (h : Hexadecimal width number digits) :
    digits.length = width ∧ Positional 16 hexValue? digits number ∧ '\n' ∉ digits := by
  induction h with
  | nil => exact ⟨rfl, ⟨[], rfl, rfl⟩, List.not_mem_nil⟩
  | @snoc width number value digits digit _ small shape ih =>
    obtain ⟨hlength, ⟨values, hvalues, hnumber⟩, hline⟩ := ih
    have hdigit : hexValue? digit = some value ∧ digit ≠ '\n' := by
      have hline : ∀ value < 16, lowerHexDigit value ≠ '\n' ∧ upperHexDigit value ≠ '\n' := by
        decide
      rcases shape with rfl | rfl
      · exact ⟨(Text.hexValue?_digit value small).1, (hline value small).1⟩
      · exact ⟨(Text.hexValue?_digit value small).2, (hline value small).2⟩
    refine ⟨by simp [hlength], ⟨values ++ [value], by simp [hvalues, hdigit.1], ?_⟩, ?_⟩
    · rw [List.reverse_append, List.reverse_singleton, List.singleton_append, Nat.ofDigits_cons,
        hnumber]
      exact Nat.add_comm value (16 * number)
    · simp [hline, hdigit.2.symm]

theorem octalDigit_spec {value : Nat} (h : value < 8) :
    octalValue? (octalDigit value) = some value ∧ octalDigit value ≠ '\n' := by
  have hall : ∀ value < 8,
      octalValue? (octalDigit value) = some value ∧ octalDigit value ≠ '\n' := by
    decide
  exact hall value h

/-- The three octal digits of a byte are read back as it. -/
theorem positional_octalDigits (byte : UInt8) :
    Positional 8 octalValue? (octalDigits byte) byte.toNat ∧ '\n' ∉ octalDigits byte := by
  have hbyte := byte.toNat_lt
  have hfirst := @octalDigit_spec (byte.toNat / 64) (by omega)
  have hsecond := @octalDigit_spec (byte.toNat / 8 % 8) (by omega)
  have hthird := @octalDigit_spec (byte.toNat % 8) (by omega)
  constructor
  · refine ⟨[byte.toNat / 64, byte.toNat / 8 % 8, byte.toNat % 8], ?_, ?_⟩
    · simp [octalDigits, hfirst.1, hsecond.1, hthird.1]
    · show byte.toNat % 8 + 8 * (byte.toNat / 8 % 8 + 8 * (byte.toNat / 64 + 8 * 0)) = byte.toNat
      omega
  · simp [octalDigits, hfirst.2.symm, hsecond.2.symm, hthird.2.symm]

/-! ## What written text stands for -/

/-- The text between two quotes has no line feed, and can be cut into pieces that stand for these
bytes. -/
structure Yields (quote : Char) (text : List Char) (bytes : List UInt8) : Prop where
  inline : '\n' ∉ text
  cut : ∃ pieces, pieces.flatten = text ∧ Pieces quote pieces bytes

theorem Pieces.append {quote : Char} {pieces others : List (List Char)} {bytes more : List UInt8}
    (h : Pieces quote pieces bytes) (h' : Pieces quote others more) :
    Pieces quote (pieces ++ others) (bytes ++ more) := by
  induction h with
  | nil => exact h'
  | cons first _ ih =>
    rw [List.append_assoc]
    exact .cons first ih

namespace Yields

variable {quote : Char} {text more : List Char} {bytes further : List UInt8}

theorem of_piece (piece : Piece quote text bytes) (inline : '\n' ∉ text) :
    Yields quote text bytes := by
  have hcut := Pieces.cons piece .nil
  rw [List.append_nil] at hcut
  exact ⟨inline, [text], List.flatten_singleton, hcut⟩

theorem append (h : Yields quote text bytes) (h' : Yields quote more further) :
    Yields quote (text ++ more) (bytes ++ further) := by
  obtain ⟨pieces, hflat, hcut⟩ := h.cut
  obtain ⟨others, hflat', hcut'⟩ := h'.cut
  refine ⟨?_, pieces ++ others, ?_, hcut.append hcut'⟩
  · simp [h.inline, h'.inline]
  · rw [List.flatten_append, hflat, hflat']

/-- What holds of the ways to write each item holds of the items written one after the other. -/
theorem of_series {α : Type} {Way : α → List Char → Prop} {form : α → List UInt8}
    {items : List α} (h : Series Way items text)
    (hway : ∀ {item : α} {text : List Char}, Way item text → Yields quote text (form item)) :
    Yields quote text (items.flatMap form) := by
  induction h with
  | nil => exact ⟨List.not_mem_nil, [], rfl, .nil⟩
  | cons first _ ih => exact (hway first).append ih

end Yields

theorem SpellsByte.yields {quote : Char} {byte : UInt8} {text : List Char}
    (h : SpellsByte byte text) : Yields quote text [byte] := by
  have hbyte : UInt8.ofNat byte.toNat = byte := UInt8.ofNat_toNat
  cases h with
  | @hexadecimal digits number =>
    obtain ⟨hlength, hnumber, hline⟩ := number.positional
    have hpiece := Piece.escaped (@Escape.byte quote _ _ hlength hnumber)
    rw [hbyte] at hpiece
    exact .of_piece hpiece (by simp [hline])
  | octal =>
    obtain ⟨hnumber, hline⟩ := positional_octalDigits byte
    have hsmall : byte.toNat ≤ 255 := Nat.le_of_lt_succ byte.toNat_lt
    have hpiece := Piece.escaped (@Escape.octal quote _ _ rfl hnumber hsmall)
    rw [hbyte] at hpiece
    exact .of_piece hpiece (by simp [hline])

/-- Whatever way a character is written in, it stands for its bytes. -/
theorem Spells.yields {quote c : Char} (hquote : Marks quote) {text : List Char}
    (h : Spells quote c text) : Yields quote text (utf8EncodeChar c) := by
  cases h with
  | itself bare unmarked inline =>
    exact .of_piece (.plain bare unmarked) (by simp [Ne.symm inline])
  | @letter letter named =>
    have hline : ∀ pair ∈ letters, pair.1 ≠ '\n' := by decide
    exact .of_piece (.escaped (.letter named)) (by simp [(hline _ named).symm])
  | quote same =>
    subst same
    have hline : '\n' ≠ c := by rcases hquote with rfl | rfl <;> decide
    exact .of_piece (.escaped .quote) (by simp [hline])
  | @point letter width digits size number =>
    obtain ⟨rfl, hnumber, hline⟩ := number.positional
    have hletter : ∀ pair ∈ pointLetters, pair.1 ≠ '\n' := by decide
    have hpiece :=
      Piece.escaped (@Escape.point quote _ _ _ size hnumber (isScalar_iff.mpr c.valid))
    rw [Char.ofNat_toNat] at hpiece
    exact .of_piece hpiece (by simp [(hletter _ size).symm, hline])
  | bytes each =>
    have hyields := Yields.of_series each (@SpellsByte.yields quote)
    rwa [List.flatMap_singleton'] at hyields

/-! ## Reading what was written -/

/-- A literal that writes a text denotes it. -/
theorem Writes.denotes {text literal : List Char} (h : Writes text literal) :
    Denotes literal text := by
  cases h with
  | @text _ body each =>
    obtain ⟨hline, pieces, rfl, hcut⟩ :=
      Yields.of_series each (Spells.yields (.inl rfl))
    exact .text hline hcut (Text.Utf8.stands_iff.mpr (Text.Utf8.decode_encode text))
  | @character c body way =>
    obtain ⟨hline, pieces, rfl, hcut⟩ := way.yields (.inr rfl)
    have hdecode := Text.Utf8.decode_encode [c]
    rw [Text.Utf8.encode, List.flatMap_singleton] at hdecode
    exact .character hline hcut (Text.Utf8.stands_iff.mpr hdecode)

/-- Every text can be written as a literal, a single character between apostrophes as well, and
whatever literal writes a text, the text is what it is read as. -/
theorem read_of_writes (text : String) :
    (∃ body, Writes text.toList ('"' :: (body ++ ['"']))) ∧
      (∀ c, text.toList = [c] → ∃ body, Writes text.toList ('\'' :: (body ++ ['\'']))) ∧
      ∀ literal : String, Writes text.toList literal.toList → read literal = .ok text := by
  refine ⟨?_, ?_, ?_⟩
  · obtain ⟨body, hbody⟩ := Series.exists_of_forall (Spells.exists_text '"') text.toList
    exact ⟨body, .text hbody⟩
  · intro c hc
    obtain ⟨body, hbody⟩ := Spells.exists_text '\'' c
    exact ⟨body, hc ▸ .character hbody⟩
  · intro literal h
    exact read_eq_ok_iff_denotes.mpr h.denotes

/-- One character in two bytes, of which one is hexadecimal and the other one octal, before a character
that is itself a digit. -/
theorem read_of_writes_mixed :
    Writes "\u00e97".toList "\"\\xC3\\2517\"".toList ∧
      read "\"\\xC3\\2517\"" = .ok "\u00e97" := by
  have hhigh : Hexadecimal 1 0xc ['C'] :=
    @Hexadecimal.snoc 0 0 0xc [] 'C' .nil (by decide) (.inr rfl)
  have hdigits : Hexadecimal 2 0xc3 ['C', '3'] :=
    @Hexadecimal.snoc 1 0xc 3 ['C'] '3' hhigh (by decide) (.inl rfl)
  have hbyte : SpellsByte 0xc3 ['\\', 'x', 'C', '3'] := .hexadecimal hdigits
  have hbytes : Series SpellsByte (utf8EncodeChar '\u00e9') "\\xC3\\251".toList :=
    .cons hbyte (.cons SpellsByte.octal .nil)
  have hseven : Spells '"' '7' ['7'] := .itself (by decide) (by decide) (by decide)
  have hwrites : Writes "\u00e97".toList "\"\\xC3\\2517\"".toList :=
    .text (.cons (.bytes hbytes) (.cons hseven .nil))
  exact ⟨hwrites, (read_of_writes _).2.2 _ hwrites⟩

end SqlGauge.Literal
