import SqlGauge.Address.Choice
import SqlGauge.Cursor

/-!
# Sessions with a database

A session opens a database, connects to it, executes the statement of a check and hands over its
result as a cursor. `Database` says how a database behaves in one session: what it returns, and
which of the things it is asked for fail.

What the database layer raises becomes a failure that tells which step it was (`Session.start`,
`Session.query`); anything else is passed on as it is.
-/

namespace SqlGauge

/-- How a database behaves in a session. A statement that returns no rows has no columns. -/
structure Database where
  columns : List String := []
  rows : List (List Cell) := []
  createFault : Option Trouble := none
  connectFault : Option Trouble := none
  executeFault : Option Trouble := none
  /-- A fault that is met after some of the rows, or after all if there are fewer. -/
  rowFault : Option (Nat × Trouble) := none
  cursorCloseFault : Option Trouble := none
  connectionCloseFault : Option Trouble := none
  disposeFault : Option Trouble := none
deriving DecidableEq

namespace Database

/-- The rows that are handed over before a fault. -/
def readableRows (database : Database) : List (List Cell) :=
  match database.rowFault with
  | none => database.rows
  | some (count, _) => database.rows.take count

/-- The cursor of an executed statement. Releasing it closes the cursor of the driver first and then
the connection. -/
def cursor (database : Database) : Cursor where
  columns := database.columns
  form := .tuple
  rows := if database.columns = [] then [] else database.readableRows
  fault := if database.columns = [] then none else database.rowFault.map (·.2)
  release := [⟨.closeCursor, database.cursorCloseFault⟩,
    ⟨.closeConnection, database.connectionCloseFault⟩]

end Database

namespace Session

/-- Trouble met while opening a database. -/
def whileOpening (trouble : Trouble) : Trouble :=
  if trouble.isUnopenable then
    .failure { cause := .query ("cannot open db: " ++ trouble.message) "" (some trouble.record) }
  else trouble

/-- Trouble about a statement, with a word on what went wrong. -/
def aboutStatement (complaint statement : String) (trouble : Trouble) : Trouble :=
  .failure { cause := .query (complaint ++ ": " ++ trouble.message) statement (some trouble.record) }

/-! ## Opening -/

/-- Opens the database of a check. Nothing is asked of it before address and deadlines are
known. -/
def start (settings : Settings) (database : Database) : Outcome Trouble Unit :=
  match Address.ofSettings settings with
  | .error trouble => ⟨.error trouble, {}⟩
  | .ok address =>
    match Deadlines.choose settings.timeout address with
    | .error refusal => ⟨.error (.refusal refusal), {}⟩
    | .ok deadlines =>
      let journal : Journal := .ofEvents [.openEngine (address.text false) deadlines.arguments]
      match database.createFault with
      | none => ⟨.ok (), journal⟩
      | some trouble => ⟨.error (whileOpening trouble), journal⟩

/-! ## Asking -/

/-- The events of executing a statement. Without arguments it is sent as it stands. -/
def executeEvents (settings : Settings) : List Event :=
  if settings.queryArgs = [] then [.withoutParameters, .execute settings.query none]
  else [.execute settings.query (some settings.queryArgs)]

/-- Connects and executes the statement. If the database layer refuses the statement, the connection
is closed; trouble met there takes its place. -/
def query (settings : Settings) (database : Database) : Outcome Trouble Cursor :=
  match database.connectFault with
  | some trouble =>
    ⟨.error (if trouble.isDatabase then aboutStatement "cannot connect" settings.query trouble
        else trouble), .ofEvents [.connect]⟩
  | none =>
    let journal : Journal := .ofEvents (.connect :: executeEvents settings)
    match database.executeFault with
    | none => ⟨.ok database.cursor, journal⟩
    | some trouble =>
      if trouble.isDatabase then
        ⟨.error (database.connectionCloseFault.getD
            (aboutStatement "query failed" settings.query trouble)),
          journal ++ .ofEvents [.closeConnection]⟩
      else ⟨.error trouble, journal⟩

/-- Lets the database go. Trouble met there is only logged. -/
def finish (database : Database) : Journal where
  events := [.dispose]
  lines := database.disposeFault.toList.map fun trouble =>
    ⟨.warning, "释放数据库引擎失败: " ++ trouble.message⟩

end Session

end SqlGauge
