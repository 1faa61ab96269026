import SqlGauge.Settings.Convert
import SqlGauge.Settings.Draft

/-!
# Settings from the annotations of an event

An event comes with the check and the entity it is about, and each of them may carry annotations
that override settings. `overrides` collects them, those of the entity after those of the check, so
that they win. `Settings.overriddenBy?` applies them. An event that overrides nothing leaves the
settings as they are, and they are not validated again. `Draft.overriddenBy` does the same where
settings may be blank (`Draft.overriddenBy_complete`).
-/

namespace SqlGauge

/-- A setting with the value that overrides it. -/
structure Override where
  setting : Setting
  value : setting.Value

namespace Override

/-- Applies overrides one after the other. -/
def apply (settings : Settings) (overrides : List Override) : Settings :=
  overrides.foldl (fun settings override => settings.set override.setting override.value) settings

end Override

namespace Annotations

/-- What an annotation has to begin with to be about a setting. -/
def keyspace : String := "sensu.io/plugins/sensu-go-sql-select-count-check/config/"

/-- The setting that an annotation with this key is about. -/
def setting? (key : String) : Option Setting :=
  Setting.all.find? fun setting => key = keyspace ++ setting.path

/-- The overrides among annotations. What is about no setting is ignored. -/
def overrides : List (String × Json) → Except Trouble (List Override)
  | [] => .ok []
  | (key, raw) :: rest =>
    match setting? key with
    | none => overrides rest
    | some setting => do
      let value ← setting.convert raw
      return ⟨setting, value⟩ :: (← overrides rest)

/-- The fields of an object that may be absent. -/
def optionalPart (name : String) (fields : List (String × Json)) :
    Except Failure (List (String × Json)) :=
  match Json.field? name fields with
  | none => .ok []
  | some (.object inner) => .ok inner
  | some other =>
    if other.isEmpty then .ok []
    else .error (.ofSettings ("event " ++ name ++ " is not a JSON object"))

/-- The overrides that one part of an event carries. -/
def ofPart (fields : List (String × Json)) : Except Trouble (List Override) := do
  let metadata ← (optionalPart "metadata" fields).mapError .failure
  let annotations ← (optionalPart "annotations" metadata).mapError .failure
  overrides annotations

/-- A part of an event that has to be there. -/
def requiredPart (name : String) (event : List (String × Json)) :
    Except Failure (List (String × Json)) :=
  match Json.field? name event with
  | some (.object fields) => .ok fields
  | _ => .error (.ofSettings ("event does not contain " ++ name))

/-- The overrides that an event carries. -/
def ofEvent : Json → Except Trouble (List Override)
  | .object event => do
    let check ← (requiredPart "check" event).mapError .failure
    let entity ← (requiredPart "entity" event).mapError .failure
    let first ← ofPart check
    return first ++ (← ofPart entity)
  | _ => .error (.failure (.ofSettings "event is not a JSON object"))

end Annotations

namespace Settings

/-- The settings as an event overrides them, if it overrides any. -/
def overriddenBy? (settings : Settings) (event : Json) : Except Trouble (Option Settings) := do
  let overrides ← Annotations.ofEvent event
  if overrides.isEmpty then return none
  let changed := Override.apply settings overrides
  changed.validate.mapError .failure
  return some changed

/-- The settings after an event. -/
def overriddenBy (settings : Settings) (event : Json) : Except Trouble Settings := do
  return (← settings.overriddenBy? event).getD settings

end Settings

namespace Draft

/-- Applies overrides one after the other. -/
def override (draft : Draft) (overrides : List Override) : Draft :=
  overrides.foldl (fun draft override => draft.set override.setting override.value) draft

theorem override_complete (settings : Settings) (overrides : List Override) :
    override { settings } overrides = { settings := Override.apply settings overrides } := by
  induction overrides generalizing settings with
  | nil => rfl
  | cons first rest ih => exact ih (settings.set first.setting first.value)

/-- The draft after an event. -/
def overriddenBy (draft : Draft) (event : Json) : Except Trouble Draft := do
  let overrides ← Annotations.ofEvent event
  if overrides.isEmpty then return draft
  let changed := draft.override overrides
  changed.validate
  return changed

theorem overriddenBy_complete (settings : Settings) (event : Json) :
    overriddenBy { settings } event = (settings.overriddenBy event).map fun after =>
      { settings := after } := by
  unfold overriddenBy Settings.overriddenBy Settings.overriddenBy?
  cases Annotations.ofEvent event with
  | error trouble => rfl
  | ok overrides =>
    cases overrides with
    | nil => rfl
    | cons first rest =>
      simp only [override_complete, validate_complete, bind, Except.bind]
      cases (Override.apply settings (first :: rest)).validate <;> rfl

end Draft

end SqlGauge
