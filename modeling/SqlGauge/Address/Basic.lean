import SqlGauge.Text.Percent
import SqlGauge.Text.Split

/-!
# Addresses of databases

An address names the backend and may say where the database is, who asks, and with which options.
`Address.text` writes one. User and password are percent-encoded, an option as in a query part, and
the options are sorted by name; the password can be hidden.
-/

namespace SqlGauge

/-- Where a database is. -/
structure Address where
  /-- The backend, and maybe the driver module after a plus sign. -/
  scheme : String
  user : Option String := none
  password : Option String := none
  host : Option String := none
  port : Option Int := none
  database : Option String := none
  /-- The options by name, each name with all its values. -/
  options : List (String × List String) := []
deriving DecidableEq

namespace Address

/-- Adds a value to an option, which keeps its place if it is there already. -/
def addOption (name value : String) : List (String × List String) → List (String × List String)
  | [] => [(name, [value])]
  | (other, values) :: rest =>
    if other = name then (other, values ++ [value]) :: rest
    else (other, values) :: addOption name value rest

/-- The options sorted by name. -/
def sortedOptions (address : Address) : List (String × List String) :=
  address.options.mergeSort fun a b => a.1 ≤ b.1

/-- What stands for a hidden password. -/
def hidden : String := "***"

/-- The user part of an address, up to its mark. A password is only written with a user. -/
def userText (hidePassword : Bool) (address : Address) : String :=
  match address.user, address.password with
  | none, _ => ""
  | some user, none => escaped user ++ "@"
  | some user, some password =>
    escaped user ++ ":" ++ (if hidePassword then hidden else escaped password) ++ "@"
where
  escaped (text : String) : String := String.ofList (Text.Percent.escape [' ', '+'] text.toList)

/-- The host part. A host with a colon is put into brackets. -/
def hostText : Option String → String
  | none => ""
  | some host => if host.toList.contains ':' then "[" ++ host ++ "]" else host

/-- The options as a query part. -/
def optionsText (address : Address) : String :=
  let pairs := address.sortedOptions.flatMap fun (name, values) =>
    values.map fun value => escaped name ++ "=" ++ escaped value
  if pairs = [] then "" else "?" ++ String.intercalate "&" pairs
where
  escaped (text : String) : String := String.ofList (Text.Percent.escapeQuery text.toList)

/-- An address as text. -/
def text (hidePassword : Bool) (address : Address) : String :=
  address.scheme ++ "://" ++ userText hidePassword address ++ hostText address.host
    ++ (address.port.elim "" fun port => ":" ++ toString port)
    ++ (address.database.elim "" fun database => "/" ++ database)
    ++ optionsText address

/-- The parts of the scheme between plus signs. -/
def schemeParts (address : Address) : List String :=
  (Text.pieces '+' address.scheme.toList).map String.ofList

end Address

end SqlGauge
