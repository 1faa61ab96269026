import SqlGauge.Address.Reader
import SqlGauge.Settings.Basic

/-!
# The address and the deadlines of a check

The settings give an address either as a whole or in parts, and the whole one wins
(`Address.ofSettings`). A scheme that names a backend by one of its aliases is completed by the
driver module for that backend; any other scheme is left alone.

The timeout of a check becomes deadlines that the driver module keeps: for connecting, and for the
statement or for each read and write (`Deadlines.choose`).
-/

namespace SqlGauge

namespace Address

/-! ## Address -/

/-- The backend with its driver module, by the name of the driver. -/
def schemeOfDriver? (driver : String) : Option String :=
  if driver = "mysql" then some "mysql+pymysql"
  else if driver = "postgresql" then some "postgresql+psycopg2"
  else none

/-- The driver that a name in an address stands for. -/
def driverOfAlias? (name : String) : Option String :=
  if ["mysql", "my", "mariadb", "maria"].contains name then some "mysql"
  else if ["postgresql", "postgres", "pg", "pgsql"].contains name then some "postgresql"
  else none

/-- The scheme completed by a driver module, unless it names one itself. -/
def completeScheme (scheme : String) : String :=
  if scheme.toList.contains '+' then scheme
  else ((driverOfAlias? scheme).bind schemeOfDriver?).getD scheme

/-- The fault of a text that is no address. -/
def unreadable : Fault :=
  ⟨.argument, "Could not parse SQLAlchemy URL from given URL string"⟩

/-- The trouble with an address that was given as a whole. -/
def Flaw.trouble : Flaw → Trouble
  | unreadable =>
    .failure { cause := .query ("invalid db url: " ++ Address.unreadable.message) ""
                (some (Trouble.fault Address.unreadable).record) }
  | port refusal => .refusal refusal

/-- A text, if there is any. -/
def nonempty? (text : String) : Option String :=
  if text = "" then none else some text

/-- The address that is put together from its parts. Without a user there is no password. -/
def assemble (settings : Settings) : Except Trouble Address :=
  match schemeOfDriver? settings.driver with
  | none =>
    .error (.failure { cause := .query ("unsupported driver: " ++ settings.driver) "" none })
  | some scheme =>
    .ok { scheme
          user := nonempty? settings.user
          password := if settings.user = "" then none else some settings.password
          host := nonempty? settings.host
          port := if 0 < settings.port then some settings.port else none
          database := nonempty? settings.database }

/-- The address of the database that settings are about. -/
def ofSettings (settings : Settings) : Except Trouble Address :=
  if settings.dburl = "" then assemble settings
  else
    match read settings.dburl with
    | .error flaw => .error flaw.trouble
    | .ok address => .ok { address with scheme := completeScheme address.scheme }

end Address

/-! ## Deadlines -/

/-- How long the driver module waits. -/
inductive Deadlines where
  /-- As long as it takes. -/
  | unlimited
  /-- These seconds for connecting, for each read and for each write. -/
  | perTransfer (seconds : Int)
  /-- These seconds for connecting, and these milliseconds for a statement. -/
  | perStatement (seconds milliseconds : Int)
deriving DecidableEq

namespace Deadlines

/-- An integer taken from a number, which has to be finite. -/
def integerOf (convert : Binary64 → Option Int) (number : Binary64) : Except Refusal Int :=
  match convert number, number with
  | some value, _ => .ok value
  | none, .nan => .error .nanToInteger
  | none, _ => .error .infinityToInteger

/-- Whole seconds, at least one. -/
def seconds (timeout : Binary64) : Except Refusal Int :=
  (integerOf Binary64.nearestInt? timeout).map (max 1)

/-- Whole milliseconds. -/
def milliseconds (timeout : Binary64) : Except Refusal Int :=
  integerOf Binary64.truncate? (timeout.scale 1000)

/-- The deadlines that the driver module of an address is given. -/
def choose (timeout : Binary64) (address : Address) : Except Refusal Deadlines := do
  let seconds ← seconds timeout
  match address.schemeParts with
  | "mysql" :: "pymysql" :: _ => return .perTransfer seconds
  | "postgresql" :: "psycopg2" :: _ => return .perStatement seconds (← milliseconds timeout)
  | _ => return .unlimited

/-- Deadlines as arguments for the driver module. -/
def arguments : Deadlines → List (String × String)
  | unlimited => []
  | perTransfer seconds =>
    [("connect_timeout", toString seconds), ("read_timeout", toString seconds),
      ("write_timeout", toString seconds)]
  | perStatement seconds milliseconds =>
    [("connect_timeout", toString seconds),
      ("options", "-c statement_timeout=" ++ toString milliseconds)]

end Deadlines

end SqlGauge
