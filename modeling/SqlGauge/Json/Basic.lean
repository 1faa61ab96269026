import SqlGauge.Decimal.Text
import SqlGauge.Text.Quoted

/-!
# Values of a JSON text

The values that a JSON text denotes. Integers and other numbers are different values, and an object
keeps the order of its keys: putting a field changes what is found under its key and nothing else
(`Json.field?_putField_same`, `Json.field?_putField_of_ne`). `Json.shown` is the text by which a
message shows a value, and `Json.text` the text that a value stands for where a text is wanted.
-/

namespace SqlGauge

/-- A JSON value. The keys of an object are distinct. -/
inductive Json where
  | null
  | bool (value : Bool)
  | integer (value : Int)
  | real (value : Binary64)
  | string (value : String)
  | array (items : List Json)
  | object (fields : List (String × Json))

namespace Json

mutual

/-- A value as messages show it. -/
def shown : Json → String
  | null => "None"
  | bool true => "True"
  | bool false => "False"
  | integer value => toString value
  | real value => value.shortText
  | string value => Text.quoted value
  | array items => Text.bracketed (shownItems items)
  | object fields => "\x7b" ++ String.intercalate ", " (shownFields fields) ++ "\x7d"

/-- The items of an array as messages show them. -/
def shownItems : List Json → List String
  | [] => []
  | item :: rest => shown item :: shownItems rest

/-- The fields of an object as messages show them. -/
def shownFields : List (String × Json) → List String
  | [] => []
  | (key, value) :: rest => (Text.quoted key ++ ": " ++ shown value) :: shownFields rest

end

/-- The text a value stands for: a string stands for itself. -/
def text : Json → String
  | string value => value
  | value => value.shown

/-- The value of a key of an object. -/
def field? (key : String) : List (String × Json) → Option Json
  | [] => none
  | (name, value) :: rest => if name = key then some value else field? key rest

/-- The fields of an object with one more: a key that is there already keeps its place and takes the
new value. -/
def putField (key : String) (value : Json) : List (String × Json) → List (String × Json)
  | [] => [(key, value)]
  | (name, old) :: rest =>
    if name = key then (name, value) :: rest else (name, old) :: putField key value rest

/-- Whether a value counts as absent: null, false, a zero, and whatever is empty. -/
def isEmpty : Json → Bool
  | null => true
  | bool value => !value
  | integer value => value = 0
  | real value => value.equals (.zero false)
  | string value => value = ""
  | array items => items.isEmpty
  | object fields => fields.isEmpty

theorem field?_putField_same (key : String) (value : Json) (fields : List (String × Json)) :
    field? key (putField key value fields) = some value := by
  induction fields with
  | nil => simp [putField, field?]
  | cons first rest ih =>
    obtain ⟨name, old⟩ := first
    by_cases h : name = key <;> simp [putField, field?, h, ih]

theorem field?_putField_of_ne {key other : String} (value : Json)
    (fields : List (String × Json)) (h : other ≠ key) :
    field? other (putField key value fields) = field? other fields := by
  induction fields with
  | nil => simp [putField, field?, h.symm]
  | cons first rest ih =>
    obtain ⟨name, old⟩ := first
    by_cases hname : name = key
    · subst hname
      simp [putField, field?, h.symm]
    · by_cases hother : name = other
      · subst hother
        simp [putField, field?, hname]
      · simp [putField, field?, hname, hother, ih]

end Json

end SqlGauge
