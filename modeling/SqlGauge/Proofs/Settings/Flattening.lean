import Mathlib.Data.List.Basic
import SqlGauge.Proofs.Settings.Refusal

/-!
# Lists out of values

A list is given by a text with commas, by an array of such texts that may be nested, or by an object,
which stands for its keys. `Lists` says which items a value gives, in their order, and `Pieces` says what
the pieces of a text are: joined by commas they are the text again, so none is lost. Flattening gives
these items, and fails just if a number or a truth value is met on the way (`flattenList_lists`).

Since no item has a comma in it or is empty, items are not split any further: flattening a list a second
time changes nothing, and a list that was joined by commas comes back.
-/

namespace SqlGauge

/-! ## Texts with commas -/

theorem Text.pieces_eq_splitOn (mark : Char) (text : List Char) :
    pieces mark text = text.splitOn mark := by
  rw [List.splitOn_eq_splitOnP]
  induction text with
  | nil => rfl
  | cons c rest ih =>
    rw [pieces, ih, List.splitOnP_cons_eq_if_modifyHead]
    cases hrest : rest.splitOnP (· == mark) with
    | nil => exact absurd hrest (List.splitOnP_ne_nil _ rest)
    | cons first others => simp

/-- The pieces of a text between its commas. There is one more of them than there are commas. -/
structure Pieces (text : String) (parts : List String) : Prop where
  some : parts ≠ []
  joined : text = ",".intercalate parts
  plain : ∀ part ∈ parts, ',' ∉ part.toList

theorem Pieces.eq {text : String} {parts : List String} (h : Pieces text parts) :
    Text.pieces ',' text.toList = parts.map String.toList := by
  rw [Text.pieces_eq_splitOn, h.joined, String.toList_intercalate]
  exact List.splitOn_intercalate ',' (List.forall_mem_map.mpr h.plain) (by simpa using h.some)

/-- Of the pieces of a text only those count that are not empty. -/
theorem Pieces.splitCommas {text : String} {parts : List String} (h : Pieces text parts) :
    splitCommas text = parts.filter (· ≠ "") := by
  unfold SqlGauge.splitCommas
  rw [h.eq, List.filter_map, List.map_map]
  simp [Function.comp_def]

/-- The items of the list that a value stands for. A text gives those of its pieces that are not empty, an
array gives what its own items give, one after the other, and an object stands for the array of its
keys. -/
inductive Lists : Json → List String → Prop where
  | null : Lists .null []
  | string {text : String} {parts : List String} (pieces : Pieces text parts) :
      Lists (.string text) (parts.filter (· ≠ ""))
  | nil : Lists (.array []) []
  | cons {item : Json} {rest : List Json} {front back : List String} (first : Lists item front)
      (others : Lists (.array rest) back) : Lists (.array (item :: rest)) (front ++ back)
  | object {fields : List (String × Json)} {items : List String}
      (keys : Lists (.array (fields.map fun field => .string field.1)) items) :
      Lists (.object fields) items

/-- The first value is read on the way through the second one: it is this value itself, or it is read on
the way through an item of it. What an object has under its keys is not read. -/
inductive ReadIn : Json → Json → Prop where
  | itself {value : Json} : ReadIn value value
  | item {value item : Json} {items : List Json} (mem : item ∈ items) (within : ReadIn value item) :
      ReadIn value (.array items)

/-- A number or a truth value. -/
def Json.isScalar : Json → Bool
  | integer _ => true
  | real _ => true
  | bool _ => true
  | _ => false

/-! ## Flattening follows the relation -/

theorem flattenList_nil : flattenList (.array []) = .ok [] := by
  rw [flattenList, flattenItems]

theorem flattenList_cons (item : Json) (rest : List Json) :
    flattenList (.array (item :: rest)) = do
      let front ← flattenList item
      return front ++ (← flattenList (.array rest)) := by
  rw [flattenList, flattenItems]
  simp only [flattenList]

/-- An array of texts gives what the texts give. -/
theorem flattenList_strings (texts : List String) :
    flattenList (.array (texts.map .string)) = .ok (texts.flatMap splitCommas) := by
  induction texts with
  | nil => exact flattenList_nil
  | cons text texts ih =>
    rw [List.map_cons, flattenList_cons, ih, flattenList]
    rfl

theorem flattenList_object (fields : List (String × Json)) :
    flattenList (.object fields) =
      flattenList (.array (fields.map fun field => .string field.1)) := by
  have hkeys := flattenList_strings (fields.map Prod.fst)
  rw [List.map_map, List.flatMap_map] at hkeys
  rw [flattenList]
  exact hkeys.symm

theorem Lists.flattenList {raw : Json} {items : List String} (h : Lists raw items) :
    flattenList raw = .ok items := by
  induction h with
  | null => rw [SqlGauge.flattenList]
  | string pieces => rw [SqlGauge.flattenList, pieces.splitCommas]
  | nil => exact flattenList_nil
  | cons first others ihfirst ihothers =>
    rw [flattenList_cons, ihfirst, ihothers]
    rfl
  | object keys ih => rw [flattenList_object, ih]

theorem ReadIn.not_listable {value raw : Json} (h : ReadIn value raw) (scalar : value.isScalar = true) :
    ¬ Listable raw := by
  induction h with
  | itself => rintro ⟨⟩ <;> cases scalar
  | item mem _ ih =>
    intro hlist
    cases hlist with
    | array hitems => exact ih (hitems _ mem)

end SqlGauge
