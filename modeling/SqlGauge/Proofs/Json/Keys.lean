import SqlGauge.Proofs.Json.Limits

/-!
# The keys of objects

In a well-formed value no object has a key twice. Whatever is read is well-formed
(`wellFormed_read`): a field with a key that is there already replaces the other one.

The fields of an object with distinct keys can be told one by one: a key has a value just if the two
are a field (`field?_eq_some_iff`).
-/

namespace SqlGauge.Json

/-- The keys of each object are distinct. -/
inductive WellFormed : Json → Prop where
  | null : WellFormed null
  | bool (value : Bool) : WellFormed (bool value)
  | integer (value : Int) : WellFormed (integer value)
  | real (value : Binary64) : WellFormed (real value)
  | string (value : String) : WellFormed (string value)
  | array {items : List Json} (h : ∀ item ∈ items, WellFormed item) : WellFormed (array items)
  | object {fields : List (String × Json)} (keys : (fields.map (·.1)).Nodup)
      (values : ∀ field ∈ fields, WellFormed field.2) : WellFormed (object fields)

/-! ## Fields -/

section Fields

variable {key : String} {value : Json} {fields : List (String × Json)}

theorem mem_of_field? (h : field? key fields = some value) : (key, value) ∈ fields := by
  induction fields with
  | nil => cases h
  | cons first rest ih =>
    unfold field? at h
    split at h
    · next hname =>
      cases h
      subst hname
      exact List.mem_cons_self
    · exact List.mem_cons_of_mem _ (ih h)

theorem field?_eq_none_iff : field? key fields = none ↔ key ∉ fields.map (·.1) := by
  induction fields with
  | nil => simp [field?]
  | cons first rest ih =>
    by_cases hname : first.1 = key
    · simp [field?, hname]
    · simp [field?, hname, Ne.symm hname, ih]

/-- Of distinct keys each has one value. -/
theorem field?_eq_some_iff (hkeys : (fields.map (·.1)).Nodup) :
    field? key fields = some value ↔ (key, value) ∈ fields := by
  refine ⟨mem_of_field?, ?_⟩
  intro hmem
  induction fields with
  | nil => cases hmem
  | cons first rest ih =>
    obtain ⟨hfirst, hrest⟩ := List.nodup_cons.mp hkeys
    unfold field?
    rcases List.mem_cons.mp hmem with rfl | hmem
    · exact if_pos rfl
    · have hname : first.1 ≠ key := by
        intro heq
        have hkey : key ∈ rest.map (·.1) := List.mem_map_of_mem hmem
        rw [← heq] at hkey
        exact hfirst hkey
      rw [if_neg hname]
      exact ih hrest hmem

theorem wellFormed_of_field? (h : (object fields).WellFormed)
    (hfield : field? key fields = some value) : value.WellFormed := by
  cases h with
  | object _ values => exact values _ (mem_of_field? hfield)

theorem keys_putField (key : String) (value : Json) (fields : List (String × Json)) :
    (putField key value fields).map (·.1) =
      if key ∈ fields.map (·.1) then fields.map (·.1) else fields.map (·.1) ++ [key] := by
  induction fields with
  | nil => rfl
  | cons first rest ih =>
    by_cases hname : first.1 = key
    · simp [putField, hname]
    · by_cases hkey : key ∈ rest.map (·.1)
      · simp [putField, hname, ih, hkey]
      · simp [putField, hname, Ne.symm hname, ih, hkey]

theorem mem_putField {field : String × Json} (h : field ∈ putField key value fields) :
    field.2 = value ∨ field ∈ fields := by
  induction fields with
  | nil =>
    rw [putField, List.mem_singleton] at h
    rw [h]
    exact .inl rfl
  | cons first rest ih =>
    unfold putField at h
    split at h
    · rcases List.mem_cons.mp h with rfl | h
      · exact .inl rfl
      · exact .inr (List.mem_cons_of_mem _ h)
    · rcases List.mem_cons.mp h with rfl | h
      · exact .inr List.mem_cons_self
      · exact (ih h).imp_right (List.mem_cons_of_mem _)

/-- A field more leaves the keys distinct. -/
theorem wellFormed_putField (h : (object fields).WellFormed) (hvalue : value.WellFormed) :
    (object (putField key value fields)).WellFormed := by
  cases h with
  | object keys values =>
    refine .object ?_ ?_
    · rw [keys_putField]
      split
      · exact keys
      · next hkey =>
        rw [List.nodup_append]
        refine ⟨keys, List.nodup_cons.mpr ⟨List.not_mem_nil, List.nodup_nil⟩, ?_⟩
        intro name hname other hother heq
        rw [List.mem_singleton.mp hother] at heq
        exact hkey (heq ▸ hname)
    · intro field hfield
      rcases mem_putField hfield with rfl | hfield
      · exact hvalue
      · exact values field hfield

end Fields

/-! ## Reading -/

theorem wellFormed_number (text : List Char) :
    ∀ taken, number text = .ok taken → taken.value.WellFormed := by
  unfold number
  extract_lets sign whole fraction exponent size
  intro taken h
  split at h
  · cases h
  · dsimp only at h
    split at h
    · split at h
      · cases h
      · cases h
        exact .integer _
    · split at h
      · cases h
        exact .real _
      · cases h

theorem wellFormed_leaf (text : List Char) :
    ∀ taken, leaf text = .ok taken → taken.value.WellFormed := by
  have hwords : ∀ word ∈ words, word.2.WellFormed := by
    intro word hword
    simp only [words, List.mem_cons, List.not_mem_nil, or_false] at hword
    rcases hword with rfl | rfl | rfl | rfl | rfl | rfl
    · exact .null
    · exact .bool true
    · exact .bool false
    · exact .real _
    · exact .real _
    · exact .real _
  unfold leaf
  intro taken h
  split at h
  · next word hword =>
    cases h
    exact hwords word (List.mem_of_find?_eq_some hword)
  · exact wellFormed_number text taken h

mutual

theorem wellFormed_value (levels : Nat) (text : List Char) :
    ∀ taken, value levels text = .ok taken → taken.value.WellFormed := by
  rw [value.eq_def]
  split
  · intro taken h
    split at h
    · cases h
    · cases h
      exact .string _
  · next rest =>
    intro taken h
    split at h
    · cases h
    · next inner =>
      split at h
      · cases h
        exact .array (List.forall_mem_nil _)
      · split at h
        · cases h
        · next items hitems =>
          cases h
          have hshorter : (skipSpace rest).length < ('[' :: rest).length :=
            Nat.lt_succ_of_le (length_skipSpace_le rest)
          exact .array (wellFormed_items inner (skipSpace rest) items hitems)
  · next rest =>
    intro taken h
    split at h
    · cases h
    · next inner =>
      split at h
      · cases h
        exact .object List.nodup_nil (List.forall_mem_nil _)
      · split at h
        · cases h
        · next fields hfields =>
          cases h
          have hshorter : (skipSpace rest).length < ('\x7b' :: rest).length :=
            Nat.lt_succ_of_le (length_skipSpace_le rest)
          exact wellFormed_fields inner [] (skipSpace rest)
            (.object List.nodup_nil (List.forall_mem_nil _)) fields hfields
  · exact wellFormed_leaf text
termination_by 2 * text.length
decreasing_by
  all_goals
    subst_vars
    omega

theorem wellFormed_items (levels : Nat) (text : List Char) :
    ∀ taken, items levels text = .ok taken → ∀ item ∈ taken.value, item.WellFormed := by
  rw [items]
  intro taken h
  split at h
  · cases h
  · next first hfirst =>
    have hvalue := wellFormed_value levels text first hfirst
    have hshorter := first.shorter
    split at h
    · cases h
      intro item hitem
      rw [List.mem_singleton.mp hitem]
      exact hvalue
    · next after hrest =>
      have hafter := length_lt_of_skipSpace hrest
      have hnext := length_skipSpace_le after
      split at h
      · cases h
      · next others hothers =>
        cases h
        exact List.forall_mem_cons.mpr
          ⟨hvalue, wellFormed_items levels (skipSpace after) others hothers⟩
    · cases h
termination_by 2 * text.length + 1
decreasing_by
  · exact Nat.lt_succ_self _
  · omega

theorem wellFormed_fields (levels : Nat) (before : List (String × Json)) (text : List Char)
    (hbefore : (object before).WellFormed) :
    ∀ taken, fields levels before text = .ok taken → (object taken.value).WellFormed := by
  rw [fields.eq_def]
  split
  · next afterQuote =>
    have hquote : afterQuote.length < ('"' :: afterQuote).length := Nat.lt_succ_self _
    intro taken h
    split at h
    · cases h
    · next name _ =>
      have hname := name.shorter
      split at h
      · next afterColon hcolon =>
        have hafterColon := length_lt_of_skipSpace hcolon
        have hvalueText := length_skipSpace_le afterColon
        split at h
        · cases h
        · next first hfirst =>
          have hfirstShorter := first.shorter
          have hvalue := wellFormed_value levels (skipSpace afterColon) first hfirst
          have hknown : (object (putField (String.ofList name.value) first.value
              before)).WellFormed := wellFormed_putField hbefore hvalue
          dsimp only at h
          split at h
          · cases h
            exact hknown
          · next after hrest =>
            have hafter := length_lt_of_skipSpace hrest
            have hnext := length_skipSpace_le after
            split at h
            · cases h
            · next others hothers =>
              cases h
              exact wellFormed_fields levels _ (skipSpace after) hknown others hothers
          · cases h
      · cases h
  · intro taken h
    cases h
termination_by 2 * text.length + 1
decreasing_by
  all_goals
    subst_vars
    omega

end

/-- Whatever is read is well-formed. -/
theorem wellFormed_read {source : String} {result : Json} (h : read source = .ok result) :
    result.WellFormed := by
  have hdocument : document source.toList = .ok result := by
    unfold read at h
    dsimp only at h
    split at h
    · next heq =>
      cases h
      exact heq
    · cases h
    · cases h
  unfold document at hdocument
  split at hdocument
  · cases hdocument
  split at hdocument
  · cases hdocument
  · next taken htaken =>
    split at hdocument
    · cases hdocument
      exact wellFormed_value _ _ taken htaken
    · cases hdocument

end SqlGauge.Json
