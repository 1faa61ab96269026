import SqlGauge.Failure
import SqlGauge.Text.Quoted
import SqlGauge.Decimal.Text

/-!
# Settings of a check

A check has fourteen settings, each of one of five kinds. `Setting` names them and says how each is
spelled as a flag, as an environment variable and as the last part of an annotation; `Settings`
holds their values. `Settings.get` and `Settings.set` go by name: what was set is read back, and the
other settings are left alone (`get_set`, `get_set_of_ne`).
-/

namespace SqlGauge

/-! ## Kinds -/

/-- The kinds of setting. -/
inductive Kind where
  | text
  | integer
  | real
  | truth
  | list
deriving DecidableEq

/-- The name of a kind in messages. -/
def Kind.name : Kind → String
  | text => "text"
  | integer => "int"
  | real => "float"
  | truth => "boolean"
  | list => "list"

/-- The values of a kind. -/
def Kind.Carrier : Kind → Type
  | text => String
  | integer => Int
  | real => Binary64
  | truth => Bool
  | list => List String

/-! ## Names -/

/-- The settings by name. -/
inductive Setting where
  | dburl
  | driver
  | host
  | port
  | user
  | password
  | database
  | query
  | queryArgs
  | warning
  | critical
  | unquote
  | debug
  | timeout
deriving DecidableEq

namespace Setting

/-- All settings, in the order in which they are read and shown. -/
def all : List Setting :=
  [dburl, driver, host, port, user, password, database, query, queryArgs, warning, critical,
    unquote, debug, timeout]

theorem mem_all (setting : Setting) : setting ∈ all := by
  cases setting <;> decide

/-- The kind of a setting. -/
def kind : Setting → Kind
  | port => .integer
  | queryArgs => .list
  | unquote => .truth
  | debug => .truth
  | timeout => .real
  | _ => .text

/-- The values of a setting. -/
abbrev Value (setting : Setting) : Type := setting.kind.Carrier

/-- The name messages and annotations use. -/
def path : Setting → String
  | dburl => "dburl"
  | driver => "driver"
  | host => "host"
  | port => "port"
  | user => "user"
  | password => "password"
  | database => "database"
  | query => "query"
  | queryArgs => "query_args"
  | warning => "warning"
  | critical => "critical"
  | unquote => "unquote"
  | debug => "debug"
  | timeout => "timeout"

/-- The environment variable that a default is taken from. -/
def variableName : Setting → String
  | dburl => "SQL_URL"
  | driver => "SQL_DRIVER"
  | host => "SQL_HOST"
  | port => "SQL_PORT"
  | user => "SQL_USER"
  | password => "SQL_PASSWORD"
  | database => "SQL_DATABASE"
  | query => "SQL_QUERY"
  | queryArgs => "SQL_QUERY_ARGS"
  | warning => "SQL_WARNING"
  | critical => "SQL_CRITICAL"
  | unquote => "SQL_UNQUOTE"
  | debug => "DEBUG"
  | timeout => "SQL_TIMEOUT"

/-- The long spelling of the flag, without its dashes. -/
def longName : Setting → String
  | queryArgs => "query-args"
  | setting => setting.path

/-- The short spelling of the flag, without its dash. -/
def shortName : Setting → Option Char
  | dburl => none
  | driver => none
  | host => some 'H'
  | port => some 'P'
  | user => some 'u'
  | password => some 'p'
  | database => some 'd'
  | query => some 'q'
  | queryArgs => some 'a'
  | warning => some 'w'
  | critical => some 'c'
  | unquote => some 'j'
  | debug => none
  | timeout => some 't'

/-- What a setting is for. -/
def usage : Setting → String
  | dburl => "DB URL"
  | driver => "DB Driver"
  | host => "DB Host"
  | port => "DB Port"
  | user => "DB User"
  | password => "DB Password"
  | database => "Database name"
  | query => "Query"
  | queryArgs =>
    "Optional query arguments passed to prepare statement. Placeholders are the driver's own: "
      ++ "%s for mysql/postgresql (not ?), ? for sqlite"
  | warning => "Warning level"
  | critical => "Critical level"
  | unquote => "Unquote string before parsing as float (useful for JSON fields)"
  | debug => "Enable debug log"
  | timeout => "Query timeout in seconds"

end Setting

/-! ## Values -/

/-- The values of all settings. What is not given has its built-in value. -/
structure Settings where
  dburl : String := ""
  driver : String := "mysql"
  host : String := ""
  port : Int := 0
  user : String := ""
  password : String := ""
  database : String := ""
  query : String := ""
  queryArgs : List String := []
  warning : String := ""
  critical : String := ""
  unquote : Bool := false
  debug : Bool := false
  timeout : Binary64 := .ofRatio false (10 * unitsPerOne) 1
deriving DecidableEq

namespace Settings

/-- The value of a setting. -/
def get (settings : Settings) : (setting : Setting) → setting.Value
  | .dburl => settings.dburl
  | .driver => settings.driver
  | .host => settings.host
  | .port => settings.port
  | .user => settings.user
  | .password => settings.password
  | .database => settings.database
  | .query => settings.query
  | .queryArgs => settings.queryArgs
  | .warning => settings.warning
  | .critical => settings.critical
  | .unquote => settings.unquote
  | .debug => settings.debug
  | .timeout => settings.timeout

/-- Gives a setting another value. -/
def set (settings : Settings) : (setting : Setting) → setting.Value → Settings
  | .dburl, value => { settings with dburl := value }
  | .driver, value => { settings with driver := value }
  | .host, value => { settings with host := value }
  | .port, value => { settings with port := value }
  | .user, value => { settings with user := value }
  | .password, value => { settings with password := value }
  | .database, value => { settings with database := value }
  | .query, value => { settings with query := value }
  | .queryArgs, value => { settings with queryArgs := value }
  | .warning, value => { settings with warning := value }
  | .critical, value => { settings with critical := value }
  | .unquote, value => { settings with unquote := value }
  | .debug, value => { settings with debug := value }
  | .timeout, value => { settings with timeout := value }

theorem get_set (settings : Settings) (setting : Setting) (value : setting.Value) :
    (settings.set setting value).get setting = value := by
  cases setting <;> rfl

theorem get_set_of_ne (settings : Settings) {setting other : Setting} (value : setting.Value)
    (h : other ≠ setting) : (settings.set setting value).get other = settings.get other := by
  cases setting <;> cases other <;> first | rfl | exact absurd rfl h

/-- Settings that agree by name are the same. -/
theorem ext_get {a b : Settings} (h : ∀ setting, a.get setting = b.get setting) : a = b := by
  obtain ⟨⟩ := a
  obtain ⟨⟩ := b
  simp only [mk.injEq]
  exact ⟨h .dburl, h .driver, h .host, h .port, h .user, h .password, h .database, h .query,
    h .queryArgs, h .warning, h .critical, h .unquote, h .debug, h .timeout⟩

/-! ## Limits -/

/-- The drivers there are. -/
def allowedDrivers : List String := ["mysql", "postgresql"]

/-- The failure to use a driver that is not there, given how messages show it. -/
def driverFailure (shown : String) : Failure :=
  .ofSettings ("invalid value " ++ shown ++ " for --driver, allowed: "
    ++ String.intercalate ", " allowedDrivers)

/-- The failure to wait for no time at all. -/
def timeoutFailure (timeout : Binary64) : Failure :=
  .ofSettings ("--timeout must be positive, got " ++ timeout.shortText)

/-- Checks that the driver is there. -/
def validateDriver (settings : Settings) : Except Failure Unit :=
  if settings.driver ∈ allowedDrivers then .ok ()
  else .error (driverFailure (Text.quoted settings.driver))

/-- Checks that there is some time to wait. -/
def validateTimeout (settings : Settings) : Except Failure Unit :=
  if settings.timeout.le (.zero false) then .error (timeoutFailure settings.timeout) else .ok ()

/-- Checks the values that are limited: the driver first, then the timeout. -/
def validate (settings : Settings) : Except Failure Unit :=
  match settings.validateDriver with
  | .error failure => .error failure
  | .ok () => settings.validateTimeout

theorem validate_eq_ok_iff {settings : Settings} :
    settings.validate = .ok () ↔
      settings.driver ∈ allowedDrivers ∧ settings.timeout.le (.zero false) = false := by
  unfold validate validateDriver validateTimeout
  by_cases h : settings.driver ∈ allowedDrivers
  · cases settings.timeout.le (.zero false) <;> simp [h]
  · simp [h]

/-! ## For the log -/

/-- What a password is replaced by. -/
def mask : String := "***"

/-- The settings with the password masked, if there is one. -/
def masked (settings : Settings) : Settings :=
  if settings.password = "" then settings else { settings with password := mask }

end Settings

end SqlGauge
