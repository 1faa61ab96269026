import SqlGauge.Decimal.Lenient
import SqlGauge.Json.Basic
import SqlGauge.Settings.Basic
import SqlGauge.Text.Split

/-!
# Values of settings from texts

Environment variables and annotations give a setting its value as a text, an annotation also as
another JSON value. `Setting.convert` turns either into a value of the setting's kind. Lists are
written with commas, and `flattenList` flattens nested lists of such texts in their order.

`Settings.ofEnvironment` converts the environment, the first text that does not convert failing.
-/

namespace SqlGauge

/-! ## Lists -/

/-- The non-empty texts between the commas of a text. -/
def splitCommas (text : String) : List String :=
  ((Text.pieces ',' text.toList).filter (· ≠ [])).map String.ofList

mutual

/-- The texts that a value stands for where a list is wanted. An object stands for its keys, and
a number or a truth value for nothing that could be listed. -/
def flattenList : Json → Except Refusal (List String)
  | .null => .ok []
  | .string text => .ok (splitCommas text)
  | .array items => flattenItems items
  | .object fields => .ok (fields.flatMap fun field => splitCommas field.1)
  | .integer _ => .error (.notIterable .integer)
  | .real _ => .error (.notIterable .real)
  | .bool _ => .error (.notIterable .truth)

/-- The texts that the items of an array stand for, in order. -/
def flattenItems : List Json → Except Refusal (List String)
  | [] => .ok []
  | item :: rest => do
    let first ← flattenList item
    return first ++ (← flattenItems rest)

end

/-! ## Single values -/

/-- The words for a truth value. No text at all means no. -/
def truth? (text : String) : Option Bool :=
  let word := String.ofList ((Text.trim text.toList).map Char.toLower)
  if ["1", "t", "true", "y", "yes", "on"].contains word then some true
  else if ["0", "f", "false", "n", "no", "off", ""].contains word then some false
  else none

/-- The failure to convert a text to a value of a kind. -/
def conversionFailure (kind : Kind) (text path : String) : Trouble :=
  .failure (.ofSettings ("invalid " ++ kind.name ++ " " ++ Text.quoted text ++ " for " ++ path))

/-- Converts a value to one of a kind, for the setting with the given path. -/
def Kind.convert (path : String) : (kind : Kind) → Json → Except Trouble kind.Carrier
  | .text, raw => .ok raw.text
  | .integer, raw =>
    (Lenient.integer raw.text).mapError fun _ => conversionFailure .integer raw.text path
  | .real, raw => (Lenient.real raw.text).mapError fun _ => conversionFailure .real raw.text path
  | .truth, raw =>
    match truth? raw.text with
    | some value => .ok value
    | none => .error (conversionFailure .truth raw.text path)
  | .list, raw => (flattenList raw).mapError .refusal

/-- Converts a value to one of a setting. -/
def Setting.convert (setting : Setting) (raw : Json) : Except Trouble setting.Value :=
  setting.kind.convert setting.path raw

/-! ## The environment -/

/-- The environment variables with their values. -/
abbrev Environment := List (String × String)

/-- The value of a setting that is not given otherwise: its variable's, or else the built-in
one. -/
def Setting.fallback (setting : Setting) (environment : Environment) :
    Except Trouble setting.Value :=
  match environment.lookup setting.variableName with
  | some text => setting.convert (.string text)
  | none => .ok (({} : Settings).get setting)

/-- The settings that the environment gives, built-in values for the others. -/
def Settings.ofEnvironment (environment : Environment) : Except Trouble Settings :=
  Setting.all.foldlM
    (fun settings setting => do return settings.set setting (← setting.fallback environment)) {}

end SqlGauge
