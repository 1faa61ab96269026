import SqlGauge.Json.Reader
import SqlGauge.Proofs.Result

/-!
# What a JSON text is refused for

A JSON text is not read beyond two limits: integers of more digits than may be converted, and values
that are nested deeper than the reader goes. Whatever else stops the reader is a problem with a place.

Both limits take their room. `Stop.Within` says how much: the digits stand in the text, and so does a
bracket for each level. A text of 990 characters reaches neither limit (`length_of_refused`).
-/

namespace SqlGauge.Json

/-- What stops a reader of so many levels on a text of so many characters: a problem, an integer of
too many digits, or a bracket for each level and one more. -/
inductive Stop.Within (levels length : Nat) : Stop → Prop where
  | problem (problem : Problem) (place : List Char) : Within levels length (.problem problem place)
  | digits {count : Nat} (many : Refusal.digitLimit < count) (hlength : count ≤ length) :
      Within levels length (.refusal (.tooManyDigits count))
  | deep (nesting : Nesting) (hlength : levels < length) :
      Within levels length (.refusal (.tooDeep nesting))

/-- A longer text has room for as many more levels. -/
theorem Stop.Within.mono {levels levels' length length' : Nat} {stop : Stop}
    (h : stop.Within levels length) (hlength : length ≤ length')
    (hlevels : levels' + length ≤ levels + length') : stop.Within levels' length' := by
  cases h with
  | problem problem place => exact .problem problem place
  | digits many hcount => exact .digits many (by omega)
  | deep nesting hdeep => exact .deep nesting (by omega)

/-! ## Leaves -/

section Leaves

variable (levels length : Nat)

theorem failsAs_codeUnitEscape (text : List Char) :
    FailsAs (Stop.Within levels length) (codeUnitEscape text) := by
  unfold codeUnitEscape
  split
  · exact .error (.problem _ _)
  split
  · split
    · exact .ok _
    split
    · exact .error (.problem _ _)
    split
    · exact .ok _
    · exact .ok _
  · exact .ok _

theorem failsAs_stringChars (opening text : List Char) :
    FailsAs (Stop.Within levels length) (stringChars opening text) := by
  fun_induction stringChars opening text with
  | case1 => exact .error (.problem _ _)
  | case2 => exact .ok _
  | case3 => exact .error (.problem _ _)
  | case4 rest stop heq => exact .error (failsAs_codeUnitEscape levels length rest stop heq)
  | case5 _ _ _ _ _ heq ih => exact .error (ih _ heq)
  | case6 => exact .ok _
  | case7 => exact .error (.problem _ _)
  | case8 _ _ _ _ _ _ heq ih => exact .error (ih _ heq)
  | case9 => exact .ok _
  | case10 => exact .error (.problem _ _)
  | case11 _ _ _ _ _ _ _ _ heq ih => exact .error (ih _ heq)
  | case12 => exact .ok _

end Leaves

theorem length_wholeDigits_le (text : List Char) : (wholeDigits text).length ≤ text.length := by
  unfold wholeDigits
  split
  · simp
  · exact (List.takeWhile_prefix _).length_le

theorem failsAs_number (levels : Nat) (text : List Char) :
    FailsAs (Stop.Within levels text.length) (number text) := by
  have hdigits (size : Nat) : (wholeDigits (text.drop size)).length ≤ text.length :=
    Nat.le_trans (length_wholeDigits_le _) (List.drop_suffix size text).length_le
  unfold number
  extract_lets sign whole fraction exponent size
  split
  · exact .error (.problem _ _)
  · extract_lets shorter
    split
    · split
      · next many => exact .error (.digits many (hdigits _))
      · exact .ok _
    · split
      · exact .ok _
      · exact .error (.problem _ _)

theorem failsAs_leaf (levels : Nat) (text : List Char) :
    FailsAs (Stop.Within levels text.length) (leaf text) := by
  unfold leaf
  split
  · exact .ok _
  · exact failsAs_number levels text

/-! ## Values -/

theorem length_lt_of_skipSpace {text rest : List Char} {c : Char}
    (h : skipSpace text = c :: rest) : rest.length < text.length := by
  have := length_skipSpace_le text
  rw [h, List.length_cons] at this
  exact this

mutual

/-- Of the levels of a value one is left behind with each bracket. -/
theorem failsAs_value (levels : Nat) (text : List Char) :
    FailsAs (Stop.Within levels text.length) (value levels text) := by
  rw [value.eq_def]
  split
  · next rest =>
    split
    · next stop heq => exact .error (failsAs_stringChars levels _ _ rest stop heq)
    · exact .ok _
  · next rest =>
    have hshorter : (skipSpace rest).length < ('[' :: rest).length :=
      Nat.lt_succ_of_le (length_skipSpace_le rest)
    split
    · exact .error (.deep .array (Nat.zero_lt_succ _))
    · next inner =>
      split
      · exact .ok _
      · split
        · next stop heq =>
          have hstop := failsAs_items inner (skipSpace rest) stop heq
          exact .error (hstop.mono (by omega) (by omega))
        · exact .ok _
  · next rest =>
    have hshorter : (skipSpace rest).length < ('\x7b' :: rest).length :=
      Nat.lt_succ_of_le (length_skipSpace_le rest)
    split
    · exact .error (.deep .object (Nat.zero_lt_succ _))
    · next inner =>
      split
      · exact .ok _
      · split
        · next stop heq =>
          have hstop := failsAs_fields inner [] (skipSpace rest) stop heq
          exact .error (hstop.mono (by omega) (by omega))
        · exact .ok _
  · exact failsAs_leaf levels text
termination_by 2 * text.length
decreasing_by
  all_goals
    subst_vars
    omega

theorem failsAs_items (levels : Nat) (text : List Char) :
    FailsAs (Stop.Within levels text.length) (items levels text) := by
  rw [items]
  split
  · next stop heq => exact .error (failsAs_value levels text stop heq)
  · next first _ =>
    have hfirst := first.shorter
    split
    · exact .ok _
    · next after hrest =>
      have hafter := length_lt_of_skipSpace hrest
      have hitems := length_skipSpace_le after
      split
      · next stop heq =>
        have hstop := failsAs_items levels (skipSpace after) stop heq
        exact .error (hstop.mono (by omega) (by omega))
      · exact .ok _
    · exact .error (.problem _ _)
termination_by 2 * text.length + 1
decreasing_by
  · exact Nat.lt_succ_self _
  · omega

theorem failsAs_fields (levels : Nat) (before : List (String × Json)) (text : List Char) :
    FailsAs (Stop.Within levels text.length) (fields levels before text) := by
  rw [fields.eq_def]
  split
  · next afterQuote =>
    have hquote : afterQuote.length < ('"' :: afterQuote).length := Nat.lt_succ_self _
    split
    · next stop heq => exact .error (failsAs_stringChars levels _ _ afterQuote stop heq)
    · next name _ =>
      have hname := name.shorter
      split
      · next afterColon hcolon =>
        have hafterColon := length_lt_of_skipSpace hcolon
        have hvalue := length_skipSpace_le afterColon
        split
        · next stop heq =>
          have hstop := failsAs_value levels (skipSpace afterColon) stop heq
          exact .error (hstop.mono (by omega) (by omega))
        · next first _ =>
          have hfirst := first.shorter
          extract_lets known
          split
          · exact .ok _
          · next after hrest =>
            have hafter := length_lt_of_skipSpace hrest
            have hfields := length_skipSpace_le after
            split
            · next stop heq =>
              have hstop := failsAs_fields levels known (skipSpace after) stop heq
              exact .error (hstop.mono (by omega) (by omega))
            · exact .ok _
          · exact .error (.problem _ _)
      · exact .error (.problem _ _)
  · exact .error (.problem _ _)
termination_by 2 * text.length + 1
decreasing_by
  all_goals
    subst_vars
    omega

end

/-! ## Texts -/

/-- A text is refused for a limit that it has the room to reach. -/
theorem of_read_refused {source : String} {refusal : Refusal}
    (h : read source = .error (.refused refusal)) :
    (Stop.refusal refusal).Within levelLimit source.length := by
  have hdocument : document source.toList = .error (.refusal refusal) := by
    unfold read at h
    dsimp only at h
    split at h
    · cases h
    · next heq =>
      cases h
      exact heq
    · cases h
  unfold document at hdocument
  split at hdocument
  · cases hdocument
  split at hdocument
  · next stop heq =>
    cases hdocument
    have hstop := failsAs_value _ _ _ heq
    have hlength : (skipSpace source.toList).length ≤ source.length :=
      length_skipSpace_le source.toList
    exact hstop.mono hlength (by omega)
  · split at hdocument <;> cases hdocument

/-- A text of 990 characters is not refused. -/
theorem length_of_refused {source : String} {refusal : Refusal}
    (h : read source = .error (.refused refusal)) : 990 < source.length := by
  cases of_read_refused h with
  | digits many hlength =>
    have hlimit : Refusal.digitLimit = 4300 := rfl
    omega
  | deep nesting hlength => exact hlength

end SqlGauge.Json
