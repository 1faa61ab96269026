import SqlGauge.Decimal.Lenient
import SqlGauge.Proofs.Number.Grammar
import SqlGauge.Proofs.Text.Cuts

/-!
# Integers written by people

An integer is an optional sign and digits of any script, with blanks around it and maybe single
underscores between the digits. `Lenient.Integer` describes these texts, and `Lenient.integer` reads just
them (`Lenient.integer_eq_ok_iff`). Of any other text it says that it is no integer, or that it has too
many digits (`Lenient.integer_error`).
-/

namespace SqlGauge

/-! ## Digits and blanks -/

namespace Text

/-- A digit is one of the ten after a zero. -/
theorem exists_zero_of_digit {c : Char} {value : Nat} (h : digitValue? c = some value) :
    ∃ first ∈ digitZeros, ∃ offset < 10, c = Char.ofNat (first + offset) := by
  unfold digitValue? at h
  split at h
  · next hrange =>
    refine ⟨0x30, .head _, c.toNat - 0x30, by omega, ?_⟩
    rw [Nat.add_sub_cancel' hrange.1, Char.ofNat_toNat]
  · obtain ⟨first, hfirst, _⟩ := Option.map_eq_some_iff.mp h
    have hrange := List.find?_some hfirst
    rw [Bool.and_eq_true, decide_eq_true_eq, decide_eq_true_eq] at hrange
    refine ⟨first, List.mem_of_find?_eq_some hfirst, c.toNat - first, by omega, ?_⟩
    rw [Nat.add_sub_cancel' hrange.1, Char.ofNat_toNat]

theorem isNumberBlank_of_digit {c : Char} {value : Nat} (h : digitValue? c = some value) :
    isNumberBlank c = false := by
  obtain ⟨first, hfirst, offset, hoffset, rfl⟩ := exists_zero_of_digit h
  have hall : ∀ first ∈ digitZeros, ∀ offset < 10,
      isNumberBlank (Char.ofNat (first + offset)) = false := by
    decide +kernel
  exact hall first hfirst offset hoffset

end Text

namespace Lenient

open Numeral (Sign)

/-! ## The grammar -/

/-- Digits with their values. A single underscore may stand between two of them. -/
inductive Grouped : List Char → List Nat → Prop where
  | last {c : Char} {value : Nat} (digit : Text.digitValue? c = some value) : Grouped [c] [value]
  | digit {c : Char} {value : Nat} {rest : List Char} {values : List Nat}
      (digit : Text.digitValue? c = some value) (more : Grouped rest values) :
      Grouped (c :: rest) (value :: values)
  | underscore {c : Char} {value : Nat} {rest : List Char} {values : List Nat}
      (digit : Text.digitValue? c = some value) (more : Grouped rest values) :
      Grouped (c :: '_' :: rest) (value :: values)

/-- An integer as a text, and its number: blanks, a sign, not too many digits, and blanks again. -/
inductive Integer : List Char → Int → Prop where
  | intro {before sign body after : List Char} {negative : Bool} {values : List Nat}
      (start : ∀ c ∈ before, Text.isNumberBlank c = true)
      (ending : ∀ c ∈ after, Text.isNumberBlank c = true)
      (side : Sign sign negative) (digits : Grouped body values)
      (short : values.length ≤ Refusal.digitLimit) :
      Integer (before ++ ((sign ++ body) ++ after))
        (Binary64.signed negative (Text.ofDigits values))

/-! ## Groups -/

/-- What may stand in a group: digits and underscores. -/
def isGroupPart (c : Char) : Bool :=
  c = '_' || (Text.digitValue? c).isSome

theorem isGrouped_cons_of_digit {c : Char} {value : Nat} (h : Text.digitValue? c = some value)
    (afterDigit : Bool) (rest : List Char) :
    isGrouped afterDigit (c :: rest) = isGrouped true rest := by
  have hc : c ≠ '_' := by
    rintro rfl
    cases h
  rw [isGrouped]
  · rw [h]
    rfl
  · exact hc

theorem exists_digit {c : Char} (h : isGroupPart c = true) (hc : c ≠ '_') :
    ∃ value, Text.digitValue? c = some value := by
  unfold isGroupPart at h
  rw [decide_eq_false hc, Bool.false_or] at h
  exact Option.isSome_iff_exists.mp h

/-- The recursion is that of the reader, only that an underscore is taken together with the digit after
it. -/
theorem grouped_of_isGrouped : ∀ {rest : List Char} {c : Char} {value : Nat},
    Text.digitValue? c = some value → isGrouped true rest = true →
      (∀ d ∈ rest, isGroupPart d = true) →
      Grouped (c :: rest) (value :: rest.filterMap Text.digitValue?)
  | [], _, _, digit, _, _ => .last digit
  | d :: rest, _, _, digit, grouped, parts => by
    by_cases hd : d = '_'
    · subst hd
      rw [List.filterMap_cons_none rfl]
      match rest, grouped with
      | e :: rest, grouped =>
        rw [isGrouped, Bool.true_and, Bool.and_eq_true, List.head?_cons, Option.bind_some] at grouped
        obtain ⟨further, he⟩ := Option.isSome_iff_exists.mp grouped.1
        rw [List.filterMap_cons_some he]
        refine .underscore digit (grouped_of_isGrouped he ?_ ?_)
        · rw [← isGrouped_cons_of_digit he false]
          exact grouped.2
        · exact fun f hf => parts f (.tail _ (.tail _ hf))
    · obtain ⟨further, hd⟩ := exists_digit (parts d (.head _)) hd
      rw [List.filterMap_cons_some hd]
      refine .digit digit (grouped_of_isGrouped hd ?_ fun e he => parts e (.tail _ he))
      rwa [isGrouped_cons_of_digit hd] at grouped

/-- A group starts with a digit. -/
theorem grouped_of_parts {text : List Char} (some : text ≠ []) (grouped : isGrouped false text = true)
    (parts : ∀ c ∈ text, isGroupPart c = true) :
    Grouped text (text.filterMap Text.digitValue?) := by
  obtain ⟨c, rest, rfl⟩ := List.exists_cons_of_ne_nil some
  have hc : c ≠ '_' := by
    rintro rfl
    cases grouped
  obtain ⟨value, hdigit⟩ := exists_digit (parts c (.head _)) hc
  rw [List.filterMap_cons_some hdigit]
  rw [isGrouped_cons_of_digit hdigit] at grouped
  exact grouped_of_isGrouped hdigit grouped fun d hd => parts d (.tail _ hd)

namespace Grouped

variable {text : List Char} {values : List Nat}

theorem exists_cons (h : Grouped text values) :
    ∃ c rest value, text = c :: rest ∧ Text.digitValue? c = some value := by
  cases h with
  | last digit => exact ⟨_, _, _, rfl, digit⟩
  | digit digit _ => exact ⟨_, _, _, rfl, digit⟩
  | underscore digit _ => exact ⟨_, _, _, rfl, digit⟩

theorem exists_concat (h : Grouped text values) :
    ∃ front c value, text = front ++ [c] ∧ Text.digitValue? c = some value := by
  induction h with
  | last digit => exact ⟨[], _, _, rfl, digit⟩
  | digit _ _ ih =>
    obtain ⟨front, c, value, rfl, hc⟩ := ih
    exact ⟨_ :: front, c, value, rfl, hc⟩
  | underscore _ _ ih =>
    obtain ⟨front, c, value, rfl, hc⟩ := ih
    exact ⟨_ :: '_' :: front, c, value, rfl, hc⟩

theorem isGrouped (h : Grouped text values) (afterDigit : Bool) :
    Lenient.isGrouped afterDigit text = true := by
  induction h generalizing afterDigit with
  | last digit => exact isGrouped_cons_of_digit digit afterDigit []
  | digit digit _ ih =>
    rw [isGrouped_cons_of_digit digit]
    exact ih true
  | underscore digit more ih =>
    obtain ⟨c, rest, value, rfl, hc⟩ := more.exists_cons
    rw [isGrouped_cons_of_digit digit, Lenient.isGrouped, ih false, List.head?_cons, Option.bind_some,
      hc]
    rfl

theorem values_eq (h : Grouped text values) : text.filterMap Text.digitValue? = values := by
  induction h with
  | last digit => rw [List.filterMap_cons_some digit, List.filterMap_nil]
  | digit digit _ ih => rw [List.filterMap_cons_some digit, ih]
  | underscore digit _ ih =>
    rw [List.filterMap_cons_some digit, List.filterMap_cons_none rfl, ih]

theorem parts (h : Grouped text values) : ∀ c ∈ text, isGroupPart c = true := by
  have hdigit {c : Char} {value : Nat} (hc : Text.digitValue? c = some value) :
      isGroupPart c = true := by
    unfold isGroupPart
    rw [hc, Option.isSome_some, Bool.or_true]
  induction h with
  | last digit => exact List.forall_mem_singleton.mpr (hdigit digit)
  | digit digit _ ih => exact List.forall_mem_cons.mpr ⟨hdigit digit, ih⟩
  | underscore digit _ ih =>
    exact List.forall_mem_cons.mpr ⟨hdigit digit, List.forall_mem_cons.mpr ⟨rfl, ih⟩⟩

end Grouped

/-! ## Reading -/

/-- What the reader does with a text between its blanks, and after its sign. -/
theorem integer_eq {text : String} {core : List Char}
    (h : Text.trimBy Text.isNumberBlank text.toList = core) :
    integer text =
      let run := (takeSign core).2.takeWhile isGroupPart
      let digits := run.filterMap Text.digitValue?
      if run = [] ∨ !isGrouped false run then .error (.notAnInteger text)
      else if Refusal.digitLimit < digits.length then .error (.tooManyDigits digits.length)
      else if (takeSign core).2.dropWhile isGroupPart ≠ [] then .error (.notAnInteger text)
      else .ok (Binary64.signed (takeSign core).1 (Text.ofDigits digits)) := by
  subst h
  rfl

/-- Neither a sign nor a digit is a blank, so nothing of an integer is trimmed off. -/
theorem stops_sign_append {sign body : List Char} {negative : Bool} {values : List Nat}
    (side : Sign sign negative) (digits : Grouped body values) :
    Text.Stops Text.isNumberBlank (sign ++ body) ∧
      Text.Stops Text.isNumberBlank (sign ++ body).reverse := by
  constructor
  · obtain ⟨c, rest, value, rfl, hc⟩ := digits.exists_cons
    cases side with
    | absent => exact Text.stops_cons.mpr (Text.isNumberBlank_of_digit hc)
    | plus => exact Text.stops_cons.mpr (by decide)
    | minus => exact Text.stops_cons.mpr (by decide)
  · obtain ⟨front, c, value, rfl, hc⟩ := digits.exists_concat
    rw [← List.append_assoc, List.reverse_append, List.reverse_singleton, List.singleton_append]
    exact Text.stops_cons.mpr (Text.isNumberBlank_of_digit hc)

theorem takeSign_grouped {sign body : List Char} {negative : Bool} {values : List Nat}
    (side : Sign sign negative) (digits : Grouped body values) :
    takeSign (sign ++ body) = (negative, body) := by
  refine Numeral.takeSign_append side ?_
  obtain ⟨c, rest, value, rfl, hc⟩ := digits.exists_cons
  rintro _ ⟨⟩
  exact Numeral.ne_sign_of_digit hc

theorem integer_eq_ok_iff {text : String} {number : Int} :
    integer text = .ok number ↔ Integer text.toList number := by
  constructor
  · intro h
    generalize hcore : Text.trimBy Text.isNumberBlank text.toList = core
    obtain ⟨before, after, htext, hbefore, hafter, _⟩ := Text.trimBy_eq_iff.mp hcore
    obtain ⟨sign, hsign, side⟩ := Numeral.sign_takeSign core
    rw [integer_eq hcore] at h
    dsimp only at h
    generalize hrun : (takeSign core).2.takeWhile isGroupPart = run at h
    generalize hrest : (takeSign core).2.dropWhile isGroupPart = rest at h
    obtain ⟨hbody, hparts, -⟩ := Text.takeWhile_eq_iff.mp ⟨hrun, hrest⟩
    split at h
    · cases h
    next hgrouped =>
    split at h
    · cases h
    next hshort =>
    split at h
    · cases h
    next hwhole =>
    -- nothing refused: the run of digits is all there is after the sign
    cases h
    rw [not_not.mp hwhole, List.append_nil] at hbody
    rw [not_or, Bool.not_eq_true', Bool.not_eq_false] at hgrouped
    have hwritten : text.toList = before ++ ((sign ++ run) ++ after) := by
      rw [htext, ← hbody, ← hsign]
    rw [hwritten]
    exact .intro hbefore hafter side (grouped_of_parts hgrouped.1 hgrouped.2 hparts)
      (Nat.le_of_not_lt hshort)
  · generalize hchars : text.toList = chars
    rintro @⟨before, sign, body, after, negative, values, hbefore, hafter, side, digits, hshort⟩
    obtain ⟨hstart, hend⟩ := stops_sign_append side digits
    have hcore : Text.trimBy Text.isNumberBlank text.toList = sign ++ body :=
      Text.trimBy_eq_iff.mpr ⟨before, after, hchars, hbefore, hafter, hstart, hend⟩
    obtain ⟨htake, hdrop⟩ := Text.takeWhile_eq_iff.mpr
      ⟨(List.append_nil body).symm, digits.parts, Text.stops_nil isGroupPart⟩
    have hsome : body ≠ [] := by
      obtain ⟨c, rest, value, rfl, hc⟩ := digits.exists_cons
      exact List.cons_ne_nil c rest
    rw [integer_eq hcore, takeSign_grouped side digits]
    dsimp only
    rw [htake, hdrop, digits.values_eq, if_neg, if_neg hshort.not_gt, if_neg (not_not.mpr rfl)]
    rw [digits.isGrouped false]
    exact not_or.mpr ⟨hsome, nofun⟩

/-- Why a text is no integer: it is not written as one, or it has too many digits. -/
theorem integer_error {text : String} {refusal : Refusal} (h : integer text = .error refusal) :
    refusal = .notAnInteger text ∨
      ∃ count, Refusal.digitLimit < count ∧ refusal = .tooManyDigits count := by
  rw [integer_eq rfl] at h
  dsimp only at h
  split at h
  · cases h
    exact .inl rfl
  · split at h
    · next hlong =>
      cases h
      exact .inr ⟨_, hlong, rfl⟩
    · split at h
      · cases h
        exact .inl rfl
      · cases h

end Lenient

end SqlGauge
