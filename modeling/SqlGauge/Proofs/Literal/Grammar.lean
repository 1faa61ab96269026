import Mathlib.Data.Nat.Digits.Defs
import SqlGauge.Measurement
import SqlGauge.Proofs.Result
import SqlGauge.Proofs.Text.Utf8

/-!
# The grammar of quoted literals

`Literal.Denotes` says which texts are quoted literals, and which text each of them denotes. Raw text
between backquotes stands for itself without its carriage returns. Between the other quotes a text is
cut into pieces, each a plain character or an escape with its bytes (`Literal.Piece`), and stands for
what the bytes of all pieces stand for as UTF-8.

A text is read as a literal just if it denotes something, and every other text fails as no literal
and is kept in the failure (`Literal.read_denotes`). No piece is the start of another one, so there
is one way only to cut a text (`Literal.Pieces.unique`).
-/

namespace SqlGauge.Literal

open String (utf8EncodeChar)
open Text (hexValue? hexNumber?)

/-! ## Pieces -/

/-- Digits, and the number they stand for in a base. -/
def Positional (base : Nat) (value? : Char → Option Nat) (digits : List Char) (number : Nat) :
    Prop :=
  ∃ values : List Nat, digits.map value? = values.map some ∧
    Nat.ofDigits base values.reverse = number

/-- The value of an octal digit. -/
def octalValue? (c : Char) : Option Nat :=
  if isOctal c then some (c.toNat - '0'.toNat) else none

/-- A code point in range that is no surrogate. -/
def IsScalar (code : Nat) : Prop :=
  code ≤ 0x10ffff ∧ ¬ (0xd800 ≤ code ∧ code ≤ 0xdfff)

/-- The letters that stand for one character each after a backslash. -/
def letters : List (Char × Char) :=
  [('a', '\x07'), ('b', '\x08'), ('f', '\x0c'), ('n', '\n'), ('r', '\r'), ('t', '\t'),
    ('v', '\x0b'), ('\\', '\\')]

/-- The letters before the number of a code point, with the digits it has. -/
def pointLetters : List (Char × Nat) :=
  [('u', 4), ('U', 8)]

/-- What may follow a backslash, and the bytes of the escape. -/
inductive Escape (quote : Char) : List Char → List UInt8 → Prop where
  | letter {letter c : Char} (named : (letter, c) ∈ letters) :
      Escape quote [letter] (utf8EncodeChar c)
  | quote : Escape quote [quote] (utf8EncodeChar quote)
  | byte {digits : List Char} {value : Nat} (size : digits.length = 2)
      (number : Positional 16 hexValue? digits value) :
      Escape quote ('x' :: digits) [UInt8.ofNat value]
  | point {letter : Char} {digits : List Char} {code : Nat}
      (size : (letter, digits.length) ∈ pointLetters)
      (number : Positional 16 hexValue? digits code) (scalar : IsScalar code) :
      Escape quote (letter :: digits) (utf8EncodeChar (Char.ofNat code))
  | octal {digits : List Char} {value : Nat} (size : digits.length = 3)
      (number : Positional 8 octalValue? digits value) (small : value ≤ 255) :
      Escape quote digits [UInt8.ofNat value]

/-- A piece of the text between two quotes, and the bytes it stands for. -/
inductive Piece (quote : Char) : List Char → List UInt8 → Prop where
  | plain {c : Char} (bare : c ≠ quote) (unmarked : c ≠ '\\') : Piece quote [c] (utf8EncodeChar c)
  | escaped {tail : List Char} {bytes : List UInt8} (escape : Escape quote tail bytes) :
      Piece quote ('\\' :: tail) bytes

/-- Pieces that follow each other, and the bytes they stand for together. -/
inductive Pieces (quote : Char) : List (List Char) → List UInt8 → Prop where
  | nil : Pieces quote [] []
  | cons {piece : List Char} {bytes : List UInt8} {others : List (List Char)}
      {more : List UInt8} (first : Piece quote piece bytes) (rest : Pieces quote others more) :
      Pieces quote (piece :: others) (bytes ++ more)

/-- A quoted literal, and the text that it denotes. Between apostrophes there is one character. -/
inductive Denotes : List Char → List Char → Prop where
  | raw {body : List Char} (clean : backquote ∉ body) :
      Denotes (backquote :: (body ++ [backquote])) (body.filter (· ≠ '\r'))
  | text {pieces : List (List Char)} {bytes : List UInt8} {text : List Char}
      (line : '\n' ∉ pieces.flatten) (cut : Pieces '"' pieces bytes)
      (stands : Text.Utf8.Stands bytes text) :
      Denotes ('"' :: (pieces.flatten ++ ['"'])) text
  | character {pieces : List (List Char)} {bytes : List UInt8} {c : Char}
      (line : '\n' ∉ pieces.flatten) (cut : Pieces '\'' pieces bytes)
      (stands : Text.Utf8.Stands bytes [c]) :
      Denotes ('\'' :: (pieces.flatten ++ ['\''])) [c]

/-! ## Numbers -/

/-- Reading digits from the front folds them. -/
theorem ofDigits_reverse (base : Nat) (values : List Nat) :
    Nat.ofDigits base values.reverse =
      values.foldl (fun number value => base * number + value) 0 := by
  rw [Nat.ofDigits_eq_foldr, List.foldr_reverse]
  simp only [Nat.cast_id, Nat.add_comm]

theorem mapM_eq_some_iff {α β : Type} {f : α → Option β} {items : List α} {results : List β} :
    items.mapM f = some results ↔ items.map f = results.map some := by
  induction items generalizing results with
  | nil => cases results <;> simp
  | cons item rest ih =>
    rw [List.mapM_cons]
    cases results with
    | nil => cases f item <;> cases rest.mapM f <;> simp [bind, Option.bind]
    | cons result results =>
      rw [List.map_cons, List.map_cons, List.cons.injEq, ← ih]
      cases f item <;> cases rest.mapM f <;> simp [bind, Option.bind]

theorem hexNumber?_eq_some_iff {digits : List Char} {number : Nat} :
    hexNumber? digits = some number ↔ Positional 16 hexValue? digits number := by
  unfold hexNumber? Positional
  simp only [Option.map_eq_some_iff, mapM_eq_some_iff, ofDigits_reverse]

theorem map_octalValue?_eq_iff {digits : List Char} {values : List Nat} :
    digits.map octalValue? = values.map some ↔
      digits.all isOctal = true ∧ digits.map (fun c => c.toNat - '0'.toNat) = values := by
  induction digits generalizing values with
  | nil => cases values <;> simp
  | cons c rest ih =>
    cases values with
    | nil => simp
    | cons value values =>
      simp only [List.map_cons, List.cons.injEq, ih, List.all_cons, Bool.and_eq_true, octalValue?]
      cases isOctal c <;> simp [and_left_comm]

/-- Octal digits stand for the number that is folded from them. -/
theorem positional_octal_iff {digits : List Char} {number : Nat} :
    Positional 8 octalValue? digits number ↔
      digits.all isOctal = true ∧
        digits.foldl (fun number c => 8 * number + (c.toNat - '0'.toNat)) 0 = number := by
  unfold Positional
  simp only [map_octalValue?_eq_iff, ofDigits_reverse]
  constructor
  · rintro ⟨values, ⟨hall, rfl⟩, hnumber⟩
    rw [List.foldl_map] at hnumber
    exact ⟨hall, hnumber⟩
  · rintro ⟨hall, hnumber⟩
    refine ⟨_, ⟨hall, rfl⟩, ?_⟩
    rw [List.foldl_map]
    exact hnumber

theorem isScalar_iff {code : Nat} : IsScalar code ↔ code.isValidChar := by
  unfold IsScalar Nat.isValidChar
  omega

/-! ## Escapes -/

theorem exists_letter {letter : Char} {byte : UInt8} (h : letterEscape? letter = some byte) :
    ∃ c, (letter, c) ∈ letters ∧ utf8EncodeChar c = [byte] := by
  unfold letterEscape? at h
  split at h <;> cases h
  all_goals
    simp only [letters, List.mem_cons, Prod.mk.injEq, List.not_mem_nil, Char.reduceEq, false_and,
      true_and, false_or, or_false, exists_eq_left]
    rfl

theorem letterEscape?_of_mem {letter c : Char} (h : (letter, c) ∈ letters) :
    ∃ byte, letterEscape? letter = some byte ∧ utf8EncodeChar c = [byte] := by
  simp only [letters, List.mem_cons, Prod.mk.injEq, List.not_mem_nil, or_false] at h
  rcases h with ⟨rfl, rfl⟩ | ⟨rfl, rfl⟩ | ⟨rfl, rfl⟩ | ⟨rfl, rfl⟩ | ⟨rfl, rfl⟩ | ⟨rfl, rfl⟩ |
    ⟨rfl, rfl⟩ | ⟨rfl, rfl⟩
  all_goals exact ⟨_, rfl, rfl⟩

theorem hexLength?_eq_some {letter : Char} {size : Nat} (h : hexLength? letter = some size) :
    letter = 'x' ∧ size = 2 ∨ (letter, size) ∈ pointLetters := by
  unfold hexLength? at h
  split at h <;> cases h
  · exact .inl ⟨rfl, rfl⟩
  · exact .inr (by decide)
  · exact .inr (by decide)

theorem pointLetter {letter : Char} {size : Nat} (h : (letter, size) ∈ pointLetters) :
    letterEscape? letter = none ∧ hexLength? letter = some size ∧ letter ≠ 'x' := by
  simp only [pointLetters, List.mem_cons, Prod.mk.injEq, List.not_mem_nil, or_false] at h
  rcases h with ⟨rfl, rfl⟩ | ⟨rfl, rfl⟩
  · exact ⟨rfl, rfl, by decide⟩
  · exact ⟨rfl, rfl, by decide⟩

theorem hexBytes_eq_ok_iff {letter : Char} {size : Nat} {digits : List Char}
    {bytes : List UInt8} :
    hexBytes letter size digits = .ok bytes ↔
      digits.length = size ∧ ∃ code, Positional 16 hexValue? digits code ∧
        if letter = 'x' then [UInt8.ofNat code] = bytes
        else IsScalar code ∧ utf8EncodeChar (Char.ofNat code) = bytes := by
  unfold hexBytes
  simp only [← hexNumber?_eq_some_iff, isScalar_iff]
  by_cases hsize : digits.length = size
  · rw [if_neg (not_not.mpr hsize)]
    cases hexNumber? digits with
    | none => simp
    | some code =>
      by_cases hletter : letter = 'x'
      · simp [hletter, hsize]
      · by_cases hcode : code.isValidChar <;> simp [hletter, hsize, hcode]
  · simp [hsize]

theorem octalByte_eq_ok_iff {digits : List Char} {bytes : List UInt8} :
    octalByte digits = .ok bytes ↔
      digits.length = 3 ∧ ∃ value, Positional 8 octalValue? digits value ∧ value ≤ 255 ∧
        [UInt8.ofNat value] = bytes := by
  unfold octalByte
  simp only [positional_octal_iff]
  by_cases hdigits : digits.length = 3 ∧ digits.all isOctal = true
  · have hgood : ¬ (digits.length ≠ 3 ∨ (!digits.all isOctal) = true) := by
      simp [hdigits.1, hdigits.2]
    rw [if_neg hgood]
    simp only [hdigits, true_and]
    split
    · next hlarge =>
      constructor
      · intro h
        cases h
      · rintro ⟨_, rfl, hsmall, _⟩
        omega
    · next hsmall =>
      constructor
      · intro h
        cases h
        exact ⟨_, rfl, Nat.le_of_not_lt hsmall, rfl⟩
      · rintro ⟨_, rfl, _, rfl⟩
        rfl
  · have hbad : digits.length ≠ 3 ∨ (!digits.all isOctal) = true := by
      rcases not_and_or.mp hdigits with h | h
      · exact .inl h
      · exact .inr (by simpa using h)
    rw [if_pos hbad]
    constructor
    · intro h
      cases h
    · rintro ⟨hlength, value, ⟨hall, _⟩, _⟩
      exact absurd ⟨hlength, hall⟩ hdigits

/-- The quotes between which escapes are read. -/
def Marks (quote : Char) : Prop :=
  quote = '"' ∨ quote = '\''

/-- An octal digit is neither a letter of another escape nor a quote. -/
theorem not_letter_of_isOctal {c : Char} (h : isOctal c = true) :
    letterEscape? c = none ∧ hexLength? c = none ∧ ∀ quote, Marks quote → c ≠ quote := by
  have hdigits : ∀ value < 8,
      letterEscape? (Char.ofNat (48 + value)) = none ∧ hexLength? (Char.ofNat (48 + value)) = none ∧
        Char.ofNat (48 + value) ≠ '"' ∧ Char.ofNat (48 + value) ≠ '\'' := by
    decide
  unfold isOctal at h
  rw [Bool.and_eq_true, decide_eq_true_eq, decide_eq_true_eq] at h
  have hlow : 48 ≤ c.toNat := h.1
  have hhigh : c.toNat ≤ 55 := h.2
  have hc := hdigits (c.toNat - 48) (by omega)
  rw [Nat.add_sub_of_le hlow, Char.ofNat_toNat] at hc
  refine ⟨hc.1, hc.2.1, ?_⟩
  rintro quote (rfl | rfl)
  · exact hc.2.2.1
  · exact hc.2.2.2

/-- A quote is no letter of another escape. -/
theorem Marks.not_letter {quote : Char} (h : Marks quote) :
    letterEscape? quote = none ∧ hexLength? quote = none := by
  rcases h with rfl | rfl
  · exact ⟨rfl, rfl⟩
  · exact ⟨rfl, rfl⟩

/-- An escape that is read starts its text. -/
theorem exists_escape {quote : Char} {text : List Char} {bytes : List UInt8} {size : Nat}
    (h : escape quote text = .ok (bytes, size)) :
    ∃ tail rest, tail ++ rest = text ∧ tail.length = size ∧ Escape quote tail bytes := by
  cases text with
  | nil => cases h
  | cons letter rest =>
    simp only [escape] at h
    split at h
    · next hletter =>
      cases h
      obtain ⟨c, hnamed, hbytes⟩ := exists_letter hletter
      exact ⟨[letter], rest, rfl, rfl, hbytes ▸ .letter hnamed⟩
    · next width _ hwidth =>
      obtain ⟨read, hread, hpair⟩ := map_eq_ok_iff.mp h
      cases hpair
      obtain ⟨hlength, code, hnumber, hbytes⟩ := hexBytes_eq_ok_iff.mp hread
      refine ⟨letter :: rest.take width, rest.drop width, ?_, by rw [List.length_cons, hlength], ?_⟩
      · rw [List.cons_append, List.take_append_drop]
      · rcases hexLength?_eq_some hwidth with ⟨rfl, rfl⟩ | hpoint
        · rw [if_pos rfl] at hbytes
          exact hbytes ▸ .byte hlength hnumber
        · rw [if_neg (pointLetter hpoint).2.2] at hbytes
          exact hbytes.2 ▸ .point (by rwa [hlength]) hnumber hbytes.1
    · split at h
      · next hmark =>
        cases h
        exact ⟨[letter], rest, rfl, rfl, hmark ▸ .quote⟩
      · split at h
        · obtain ⟨read, hread, hpair⟩ := map_eq_ok_iff.mp h
          cases hpair
          obtain ⟨hlength, value, hnumber, hsmall, rfl⟩ := octalByte_eq_ok_iff.mp hread
          refine ⟨letter :: rest.take 2, rest.drop 2, ?_, hlength, .octal hlength hnumber hsmall⟩
          rw [List.cons_append, List.take_append_drop]
        · cases h

/-- A hexadecimal escape is the letter, and then as many digits as the letter takes. -/
theorem escape_hex (quote : Char) {letter : Char} {size : Nat} {digits : List Char}
    {bytes : List UInt8} (hletter : letterEscape? letter = none)
    (hsize : hexLength? letter = some size) (hlength : digits.length = size)
    (hbytes : hexBytes letter size digits = .ok bytes) (rest : List Char) :
    escape quote (letter :: digits ++ rest) = .ok (bytes, size + 1) := by
  rw [List.cons_append, escape, hletter, hsize]
  simp only
  rw [List.take_left' hlength, hbytes]
  rfl

/-- An escape is read whatever follows it. -/
theorem Escape.read {quote : Char} (hquote : Marks quote) {tail : List Char}
    {bytes : List UInt8} (h : Escape quote tail bytes) (rest : List Char) :
    escape quote (tail ++ rest) = .ok (bytes, tail.length) := by
  cases h with
  | @letter letter c named =>
    obtain ⟨byte, hletter, hbytes⟩ := letterEscape?_of_mem named
    rw [List.singleton_append, escape, hletter, hbytes]
    rfl
  | quote =>
    rw [List.singleton_append, escape, hquote.not_letter.1, hquote.not_letter.2]
    exact if_pos rfl
  | byte size number =>
    rw [List.length_cons, size]
    have hbytes := hexBytes_eq_ok_iff.mpr ⟨size, _, number, (if_pos rfl).mpr rfl⟩
    exact escape_hex quote rfl rfl size hbytes rest
  | @point letter digits code size number scalar =>
    obtain ⟨hletter, hlength, hne⟩ := pointLetter size
    refine escape_hex quote hletter hlength rfl (hexBytes_eq_ok_iff.mpr ⟨rfl, _, number, ?_⟩) rest
    rw [if_neg hne]
    exact ⟨scalar, rfl⟩
  | @octal digits value size number small =>
    obtain ⟨letter, more, rfl⟩ := List.exists_cons_of_length_eq_add_one size
    have hoctal : isOctal letter = true :=
      List.all_eq_true.mp (positional_octal_iff.mp number).1 letter List.mem_cons_self
    obtain ⟨hletter, hlength, hne⟩ := not_letter_of_isOctal hoctal
    have hmore : more.length = 2 := Nat.succ.inj size
    have hbytes := octalByte_eq_ok_iff.mpr ⟨size, value, number, small, rfl⟩
    rw [List.cons_append, escape, hletter, hlength]
    simp only
    rw [if_neg (hne quote hquote), if_pos hoctal, List.take_left' hmore, hbytes, size]
    rfl

/-! ## Bodies -/

/-- A piece is read whatever follows it. -/
theorem Piece.read {quote : Char} (hquote : Marks quote) {piece : List Char}
    {bytes : List UInt8} (h : Piece quote piece bytes) (rest : List Char) :
    bodyBytes quote (piece ++ rest) = (bodyBytes quote rest).map (bytes ++ ·) := by
  cases h with
  | plain bare unmarked =>
    rw [List.singleton_append, bodyBytes, if_neg bare, if_pos unmarked]
  | @escaped tail bytes escape =>
    have hslash : ¬ '\\' = quote := by rcases hquote with rfl | rfl <;> decide
    rw [List.cons_append, bodyBytes, if_neg hslash, if_neg (by decide)]
    split
    · next hread =>
      rw [escape.read hquote rest] at hread
      cases hread
    · next hread =>
      rw [escape.read hquote rest] at hread
      cases hread
      rw [List.drop_left]

/-- The text between two quotes is read just if it can be cut into pieces, as the bytes of these. -/
theorem bodyBytes_eq_ok_iff {quote : Char} (hquote : Marks quote) {body : List Char}
    {bytes : List UInt8} :
    bodyBytes quote body = .ok bytes ↔
      ∃ pieces, pieces.flatten = body ∧ Pieces quote pieces bytes := by
  constructor
  · intro h
    fun_induction bodyBytes quote body generalizing bytes with
    | case1 =>
      cases h
      exact ⟨[], rfl, .nil⟩
    | case2 => cases h
    | case3 c rest bare unmarked ih =>
      obtain ⟨more, hmore, rfl⟩ := map_eq_ok_iff.mp h
      obtain ⟨pieces, rfl, hpieces⟩ := ih hmore
      exact ⟨[c] :: pieces, rfl, .cons (.plain bare unmarked) hpieces⟩
    | case4 => cases h
    | case5 c rest _ marked read size hread ih =>
      obtain ⟨more, hmore, rfl⟩ := map_eq_ok_iff.mp h
      obtain ⟨pieces, hflat, hpieces⟩ := ih hmore
      obtain ⟨tail, others, rfl, rfl, hescape⟩ := exists_escape hread
      rw [List.drop_left] at hflat
      obtain rfl := not_not.mp marked
      exact ⟨('\\' :: tail) :: pieces, by rw [List.flatten_cons, hflat, List.cons_append],
        .cons (.escaped hescape) hpieces⟩
  · rintro ⟨pieces, rfl, h⟩
    induction h with
    | nil => rw [List.flatten_nil, bodyBytes]
    | cons first _ ih =>
      rw [List.flatten_cons, first.read hquote, ih]
      rfl

/-- No piece is the start of another one. -/
theorem Piece.eq_of_append {quote : Char} (hquote : Marks quote) {piece piece' : List Char}
    {bytes bytes' : List UInt8} (h : Piece quote piece bytes) (h' : Piece quote piece' bytes')
    {rest rest' : List Char} (heq : piece ++ rest = piece' ++ rest') :
    piece = piece' ∧ bytes = bytes' := by
  cases h with
  | plain _ unmarked =>
    cases h' with
    | plain _ _ =>
      cases heq
      exact ⟨rfl, rfl⟩
    | escaped _ =>
      cases heq
      exact absurd rfl unmarked
  | escaped escape =>
    cases h' with
    | plain _ unmarked =>
      cases heq
      exact absurd rfl unmarked
    | escaped escape' =>
      rw [List.cons_append, List.cons_append, List.cons.injEq] at heq
      -- what is read from the common text is both of the escapes
      have hread := escape.read hquote rest
      rw [heq.2, escape'.read hquote rest'] at hread
      rw [Except.ok.injEq, Prod.mk.injEq] at hread
      obtain ⟨rfl, hlength⟩ := hread
      rw [(List.append_inj heq.2 hlength.symm).1]
      exact ⟨rfl, rfl⟩

/-- There is one way only to cut a text into pieces. -/
theorem Pieces.unique {quote : Char} (hquote : Marks quote) {pieces pieces' : List (List Char)}
    {bytes bytes' : List UInt8} (h : Pieces quote pieces bytes) (h' : Pieces quote pieces' bytes')
    (heq : pieces.flatten = pieces'.flatten) : pieces = pieces' ∧ bytes = bytes' := by
  have hne : ∀ {piece : List Char} {bytes : List UInt8}, Piece quote piece bytes → piece ≠ [] := by
    rintro _ _ (_ | _)
    · exact List.cons_ne_nil _ _
    · exact List.cons_ne_nil _ _
  induction h generalizing pieces' bytes' with
  | nil =>
    cases h' with
    | nil => exact ⟨rfl, rfl⟩
    | cons first _ => exact absurd (List.append_eq_nil_iff.mp heq.symm).1 (hne first)
  | cons first _ ih =>
    cases h' with
    | nil => exact absurd (List.append_eq_nil_iff.mp heq).1 (hne first)
    | cons first' rest' =>
      obtain ⟨rfl, rfl⟩ := first.eq_of_append hquote first' heq
      obtain ⟨rfl, rfl⟩ := ih rest' (List.append_cancel_left heq)
      exact ⟨rfl, rfl⟩

/-! ## Literals -/

/-- A literal that can be read is its body between two equal quotes. -/
theorem read_eq_ok_iff_body {literal text : String} :
    read literal = .ok text ↔
      ∃ quote body, isQuote quote = true ∧ literal.toList = quote :: (body ++ [quote]) ∧
        readBody quote body = .ok text.toList := by
  unfold read
  constructor
  · intro h
    split at h
    · cases h
    · next quote rest hliteral =>
      split at h
      · next hquoted =>
        obtain ⟨body, rfl⟩ := List.getLast?_eq_some_iff.mp hquoted.2
        obtain ⟨inner, hinner, rfl⟩ := map_eq_ok_iff.mp h
        rw [List.dropLast_concat] at hinner
        exact ⟨quote, body, hquoted.1, hliteral, by rw [hinner, String.toList_ofList]⟩
      · cases h
  · rintro ⟨quote, body, hquote, hliteral, hbody⟩
    rw [hliteral]
    simp only
    rw [if_pos ⟨hquote, List.getLast?_concat⟩, List.dropLast_concat, hbody]
    show Except.ok (String.ofList text.toList) = _
    rw [String.ofList_toList]

/-- Raw text is what it is, without its carriage returns. -/
theorem readBody_raw_iff {body text : List Char} :
    readBody backquote body = .ok text ↔ backquote ∉ body ∧ body.filter (· ≠ '\r') = text := by
  unfold readBody
  rw [if_pos rfl]
  by_cases hclean : backquote ∈ body
  · simp [hclean]
  · simp [hclean]

/-- Between the other quotes the bytes of the pieces are read as text. -/
theorem readBody_marked_iff {quote : Char} (hquote : Marks quote) {body text : List Char} :
    readBody quote body = .ok text ↔
      '\n' ∉ body ∧ (∃ pieces bytes, pieces.flatten = body ∧ Pieces quote pieces bytes ∧
        Text.Utf8.Stands bytes text) ∧ (quote = '\'' → text.length = 1) := by
  have hraw : quote ≠ backquote := by rcases hquote with rfl | rfl <;> decide
  unfold readBody
  rw [if_neg hraw]
  by_cases hline : '\n' ∈ body
  · simp [hline]
  · rw [if_neg (by simpa using hline)]
    constructor
    · intro h
      split at h
      · cases h
      · next bytes hbytes =>
        obtain ⟨pieces, hflat, hcut⟩ := (bodyBytes_eq_ok_iff hquote).mp hbytes
        simp only at h
        split at h
        · cases h
        · next hone =>
          cases h
          refine ⟨hline, ⟨pieces, bytes, hflat, hcut, Text.Utf8.stands_iff.mpr rfl⟩, ?_⟩
          intro happostrophe
          exact not_not.mp fun hlength => hone ⟨happostrophe, hlength⟩
    · rintro ⟨_, ⟨pieces, bytes, hflat, hcut, hstands⟩, hone⟩
      rw [(bodyBytes_eq_ok_iff hquote).mpr ⟨pieces, hflat, hcut⟩]
      simp only [Text.Utf8.stands_iff.mp hstands]
      exact if_neg fun hmany => hmany.2 (hone hmany.1)

/-- The reader follows the grammar. -/
theorem read_eq_ok_iff_denotes {literal text : String} :
    read literal = .ok text ↔ Denotes literal.toList text.toList := by
  rw [read_eq_ok_iff_body]
  constructor
  · rintro ⟨quote, body, hquote, hliteral, hbody⟩
    have hquotes : (quote = '"' ∨ quote = '\'') ∨ quote = backquote := by
      simpa [isQuote] using hquote
    rw [hliteral]
    rcases hquotes with (rfl | rfl) | rfl
    · obtain ⟨hline, ⟨pieces, bytes, rfl, hcut, hstands⟩, _⟩ :=
        (readBody_marked_iff (.inl rfl)).mp hbody
      exact .text hline hcut hstands
    · obtain ⟨hline, ⟨pieces, bytes, rfl, hcut, hstands⟩, hone⟩ :=
        (readBody_marked_iff (.inr rfl)).mp hbody
      obtain ⟨c, hc⟩ := List.length_eq_one_iff.mp (hone rfl)
      rw [hc] at hstands ⊢
      exact .character hline hcut hstands
    · obtain ⟨hclean, hkept⟩ := readBody_raw_iff.mp hbody
      rw [← hkept]
      exact .raw hclean
  · generalize literal.toList = quoted, text.toList = inner
    intro h
    cases h with
    | raw clean => exact ⟨backquote, _, rfl, rfl, readBody_raw_iff.mpr ⟨clean, rfl⟩⟩
    | text line cut stands =>
      refine ⟨'"', _, rfl, rfl, (readBody_marked_iff (.inl rfl)).mpr ?_⟩
      exact ⟨line, ⟨_, _, rfl, cut, stands⟩, fun happostrophe => absurd happostrophe (by decide)⟩
    | character line cut stands =>
      refine ⟨'\'', _, rfl, rfl, (readBody_marked_iff (.inr rfl)).mpr ?_⟩
      exact ⟨line, ⟨_, _, rfl, cut, stands⟩, fun _ => rfl⟩

/-- A text is read just as what it denotes, and any other text fails as no literal, with the text
kept. A cell that holds it fails in the same way. -/
theorem read_denotes (literal : String) :
    (∀ text, read literal = .ok text ↔ Denotes literal.toList text.toList) ∧
      ((¬ ∃ text, Denotes literal.toList text) ↔
        ∃ flaw, read literal = .error flaw ∧
          Measurement.ofCell true (some literal) =
            .error (.failure { cause := .notQuoted literal flaw.message })) := by
  refine ⟨fun text => read_eq_ok_iff_denotes, ?_⟩
  constructor
  · intro hnone
    cases hread : read literal with
    | ok text => exact absurd ⟨_, read_eq_ok_iff_denotes.mp hread⟩ hnone
    | error flaw =>
      refine ⟨flaw, rfl, ?_⟩
      rw [Measurement.ofCell, if_pos rfl, hread]
  · rintro ⟨flaw, hread, _⟩ ⟨text, h⟩
    rw [← @String.toList_ofList text] at h
    rw [read_eq_ok_iff_denotes.mpr h] at hread
    cases hread

end SqlGauge.Literal
