import SqlGauge.Decimal.Text
import SqlGauge.Text.Quoted

/-!
# Texts of one line

A line is a text with a line feed at its end and no other one. Messages are put together from fixed
words, numbers and quoted texts, none of which holds a line feed, and from texts that are repeated as
they are; so it depends on the latter whether a message is broken (`unbroken_append`,
`unbroken_intercalate`).
-/

namespace SqlGauge

namespace Text

/-- No line feed breaks the text. -/
def Unbroken (text : String) : Prop :=
  '\n' ∉ text.toList

instance (text : String) : Decidable (Unbroken text) :=
  inferInstanceAs (Decidable ('\n' ∉ text.toList))

/-- The text is one line with its end. -/
def IsLine (text : String) : Prop :=
  ∃ body, text = body ++ "\n" ∧ Unbroken body

/-! ## Texts put together -/

theorem unbroken_append {first second : String} :
    Unbroken (first ++ second) ↔ Unbroken first ∧ Unbroken second := by
  unfold Unbroken
  rw [String.toList_append, List.mem_append, not_or]

theorem unbroken_ofList {text : List Char} : Unbroken (String.ofList text) ↔ '\n' ∉ text := by
  unfold Unbroken
  rw [String.toList_ofList]

theorem unbroken_intercalate {mark : String} (h : Unbroken mark) (texts : List String) :
    Unbroken (String.intercalate mark texts) ↔ ∀ text ∈ texts, Unbroken text := by
  induction texts with
  | nil =>
    rw [String.intercalate_nil]
    exact iff_of_true (by decide) (List.forall_mem_nil _)
  | cons text rest ih =>
    cases rest with
    | nil => rw [String.intercalate_singleton, List.forall_mem_singleton]
    | cons next rest =>
      rw [String.intercalate_cons_cons, unbroken_append, unbroken_append, ih, and_iff_left h]
      exact List.forall_mem_cons.symm

/-- A literal is compared with its characters much faster than it is taken apart into them. -/
theorem Unbroken.literal {chars : List Char} {text : String} (htext : String.ofList chars = text)
    (h : '\n' ∉ chars) : Unbroken text := by
  subst htext
  exact unbroken_ofList.mpr h

theorem isLine_append_iff {body : String} : IsLine (body ++ "\n") ↔ Unbroken body := by
  constructor
  · rintro ⟨other, heq, hother⟩
    rwa [(String.append_left_inj "\n").mp heq]
  · intro h
    exact ⟨body, rfl, h⟩

/-! ## Numbers -/

theorem newline_notMem_toDigits (number : Nat) : '\n' ∉ Nat.toDigits 10 number := by
  intro h
  have hdigit := Nat.isDigit_of_mem_toDigits (by decide) (by decide) h
  exact absurd hdigit (by decide)

theorem unbroken_nat (number : Nat) : Unbroken (toString number) := by
  rw [Nat.toString_eq_ofList_toDigits, unbroken_ofList]
  exact newline_notMem_toDigits number

end Text

namespace Decimal

theorem newline_notMem_trimmedDigits (coefficient : Nat) : '\n' ∉ trimmedDigits coefficient := by
  intro h
  have hsuffix := @List.dropWhile_suffix _ (Nat.toDigits 10 coefficient).reverse (fun c => decide (c = '0'))
  have hmem := hsuffix.subset (List.mem_reverse.mp h)
  exact Text.newline_notMem_toDigits coefficient (List.mem_reverse.mp hmem)

theorem newline_notMem_exponentMark (exponent : Int) : '\n' ∉ exponentMark exponent := by
  have hdigits := Text.newline_notMem_toDigits exponent.natAbs
  unfold exponentMark
  simp only [List.mem_cons, not_or]
  refine ⟨by decide, by split <;> decide, ?_⟩
  split
  · rw [List.mem_cons, not_or]
    exact ⟨by decide, hdigits⟩
  · exact hdigits

theorem newline_notMem_scientific {digits : List Char} (exponent : Int) (h : '\n' ∉ digits) :
    '\n' ∉ scientific digits exponent := by
  have hmark := newline_notMem_exponentMark exponent
  unfold scientific
  split
  · decide
  · rename_i digit
    rw [List.mem_cons, not_or] at h ⊢
    exact ⟨h.1, hmark⟩
  · rename_i digit fraction _
    rw [List.mem_cons, not_or] at h
    simp only [List.cons_append, List.mem_cons, List.mem_append, not_or]
    exact ⟨h.1, by decide, h.2, hmark⟩

theorem newline_notMem_zeros (count : Nat) : '\n' ∉ List.replicate count '0' := by
  intro h
  exact absurd (List.eq_of_mem_replicate h) (by decide)

theorem newline_notMem_positional {wholeMark digits : List Char} (exponent : Int)
    (hmark : '\n' ∉ wholeMark) (h : '\n' ∉ digits) :
    '\n' ∉ positional wholeMark digits exponent := by
  unfold positional
  split
  · simp only [List.cons_append, List.mem_cons, List.mem_append, not_or]
    exact ⟨by decide, by decide, newline_notMem_zeros _, h⟩
  · split
    · simp only [List.mem_append, not_or]
      exact ⟨⟨h, newline_notMem_zeros _⟩, hmark⟩
    · simp only [List.mem_append, List.mem_cons, not_or]
      exact ⟨fun hmem => h (List.mem_of_mem_take hmem), by decide,
        fun hmem => h (List.mem_of_mem_drop hmem)⟩

theorem newline_notMem_layout {style : Style} (coefficient : Nat) (exponent : Int)
    (hmark : '\n' ∉ style.wholeMark) : '\n' ∉ layout style coefficient exponent := by
  unfold layout
  dsimp only
  split
  · exact newline_notMem_positional _ hmark (newline_notMem_trimmedDigits _)
  · exact newline_notMem_scientific _ (newline_notMem_trimmedDigits _)

end Decimal

namespace Binary64

theorem unbroken_write {magnitude : Nat → List Char} (h : ∀ units, '\n' ∉ magnitude units)
    (number : Binary64) : Text.Unbroken (write magnitude number) := by
  have hsign (negative : Bool) : '\n' ∉ signText negative := by cases negative <;> decide
  cases number with
  | nan =>
    show Text.Unbroken "nan"
    decide
  | infinite negative =>
    show Text.Unbroken (String.ofList (signText negative ++ ['i', 'n', 'f']))
    rw [Text.unbroken_ofList, List.mem_append, not_or]
    exact ⟨hsign negative, by decide⟩
  | finite negative m =>
    show Text.Unbroken (String.ofList (signText negative ++ magnitude m.units))
    rw [Text.unbroken_ofList, List.mem_append, not_or]
    exact ⟨hsign negative, h _⟩

theorem unbroken_shortText (number : Binary64) : Text.Unbroken number.shortText := by
  apply unbroken_write
  intro units
  split
  · decide
  · exact Decimal.newline_notMem_layout _ _ (by decide)

theorem unbroken_fixedText (number : Binary64) : Text.Unbroken number.fixedText := by
  apply unbroken_write
  intro units
  simp only [List.mem_append, List.mem_cons, not_or]
  exact ⟨⟨Text.newline_notMem_toDigits _, by decide, Decimal.newline_notMem_zeros _⟩,
    Text.newline_notMem_toDigits _⟩

end Binary64

/-! ## Quoted texts -/

namespace Text

theorem newline_notMem_hexDigits (width number : Nat) :
    '\n' ∉ hexDigits lowerHexDigit width number := by
  have hdigit : ∀ value < 16, lowerHexDigit value ≠ '\n' := by decide
  induction width generalizing number with
  | zero => exact List.not_mem_nil
  | succ width ih =>
    rw [hexDigits, List.mem_append, List.mem_singleton, not_or]
    exact ⟨ih _, (hdigit _ (Nat.mod_lt _ (by decide))).symm⟩

theorem newline_notMem_escapeChar {mark : Char} (h : mark ≠ '\n') (c : Char) :
    '\n' ∉ escapeChar mark c := by
  have hnumber {letter : Char} (hletter : '\n' ≠ letter) (width : Nat) :
      '\n' ∉ '\\' :: letter :: hexDigits lowerHexDigit width c.toNat := by
    rw [List.mem_cons, List.mem_cons, not_or, not_or]
    exact ⟨by decide, hletter, newline_notMem_hexDigits _ _⟩
  unfold escapeChar
  by_cases hmark : c = mark ∨ c = '\\'
  · -- what is written as itself after a backslash is the mark or a backslash
    have hc : '\n' ≠ c := by
      rcases hmark with rfl | rfl
      · exact h.symm
      · decide
    rw [if_pos hmark, List.mem_cons, List.mem_singleton, not_or]
    exact ⟨by decide, hc⟩
  · rw [if_neg hmark]
    by_cases hc : c = '\n'
    · rw [if_pos hc]
      decide
    · rw [if_neg hc]
      split
      · decide
      split
      · decide
      split
      · rw [List.mem_singleton]
        exact fun heq => hc heq.symm
      split
      · exact hnumber (by decide) 2
      split
      · exact hnumber (by decide) 4
      · exact hnumber (by decide) 8

/-- Quoting a text takes its line feeds out. -/
theorem newline_notMem_quotedChars (text : List Char) : '\n' ∉ quotedChars text := by
  have hmark : quoteMark text ≠ '\n' := by
    unfold quoteMark
    split <;> decide
  unfold quotedChars
  simp only [List.cons_append, List.mem_cons, List.mem_append, List.not_mem_nil, or_false, not_or]
  refine ⟨hmark.symm, ?_, hmark.symm⟩
  intro h
  obtain ⟨c, _, hc⟩ := List.mem_flatMap.mp h
  exact newline_notMem_escapeChar hmark c hc

theorem unbroken_quoted (text : String) : Unbroken (quoted text) :=
  unbroken_ofList.mpr (newline_notMem_quotedChars text.toList)

end Text

end SqlGauge
