import SqlGauge.Json.Reader
import SqlGauge.Probe.Draft
import SqlGauge.Settings.Annotations
import SqlGauge.Settings.Help
import SqlGauge.Text.LineEnd

/-!
# The program

The program reads its settings from flags and environment, and lets an event override them if one
is given. Then it checks the database and prints one line. Whatever settles the settings comes
before the database is asked for anything.
-/

namespace SqlGauge.Program

/-- How much is logged, once that is settled. -/
inductive Verbosity where
  | unsettled
  | brief
  | full
deriving DecidableEq

/-- How the program ends: its exit code, what it printed, and its journal. -/
structure Ending where
  exitCode : Nat
  output : String
  verbosity : Verbosity
  journal : Journal := {}
deriving DecidableEq

/-- Settings that could not be settled. -/
def unusable (failure : Failure) : Ending where
  exitCode := State.unknown.exitCode
  output := "error validating input: " ++ failure.message ++ "\n"
  verbosity := .unsettled

/-- Somebody asked for help. -/
def helped : Ending where
  exitCode := 0
  output := Help.text
  verbosity := .unsettled

/-- A failure to get an event out of what was given. -/
def eventFailure (complaint : String) : Trouble :=
  .failure (.ofSettings ("failed to unmarshal STDIN data: " ++ complaint))

/-- The trouble with a text that is no JSON. -/
def eventTrouble : Json.Unreadable → Trouble
  | .malformed problem place => eventFailure (problem.message ++ ": " ++ place)
  | .refused refusal => .refusal refusal

/-- Reads the text of an event. It comes as lines, whatever these end with. -/
def readEvent (text : String) : Except Trouble Json := do
  let lines := String.ofList (Text.foldLineEnds text.toList)
  match ← (Json.read lines).mapError eventTrouble with
  | .object fields => return .object fields
  | _ => .error (eventFailure "event is not a JSON object")

/-- What the program is asked to do. -/
def request (arguments : List String) (environment : Environment) (event : Option String) :
    Except Trouble Settings.Request := do
  match ← Settings.read arguments environment, event with
  | .check draft, some text => return .check (← draft.overriddenBy (← readEvent text))
  | asked, _ => return asked

/-- How a check ends. -/
def checked (settings : Settings) (outcome : Probe.Checked) : Ending where
  exitCode := outcome.report.state.exitCode
  output := outcome.report.message ++ "\n"
  verbosity := if settings.debug then .full else .brief
  journal := outcome.journal

/-- Checks a database with settled settings. -/
def check (draft : Draft) (database : Database) : Except Trouble Ending :=
  (Probe.runDraft draft database).map (checked draft.settings)

/-- The whole program. Trouble other than a failure is not caught. -/
def run (arguments : List String) (environment : Environment) (event : Option String)
    (database : Database) : Except Trouble Ending :=
  match request arguments environment event with
  | .error (.failure failure) => .ok (unusable failure)
  | .error trouble => .error trouble
  | .ok .help => .ok helped
  | .ok (.check draft) => check draft database

end SqlGauge.Program
