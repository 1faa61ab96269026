import SqlGauge.Text.Quoted

/-!
# What can go wrong

Three kinds of trouble break a step off: a `Failure` of the check itself, a `Fault` that the
database driver raises, and a `Refusal` of a plain value that is not of use. `Trouble` is any of
them, and `Record` is what is kept of one that led to another.

A failure may carry the trouble met while the result was being released. Its text is then joined to
the failure's own, after it (`Failure.message_released`); it never takes its place.
-/

namespace SqlGauge

/-! ## Plain values -/

/-- The two forms in which rows are handed over: a list, or the fixed row of a database cursor. -/
inductive RowForm where
  | list
  | tuple
deriving DecidableEq

/-- The kinds of plain value that hold nothing to go through. -/
inductive ScalarKind where
  | integer
  | real
  | truth
deriving DecidableEq

/-- The two forms in which the values of a JSON text hold others. -/
inductive Nesting where
  | array
  | object
deriving DecidableEq

/-- What an empty list is asked for in the place of a text or a number: how it starts, what is left
of it without the blanks around it, whether it is at most a number, or above one. -/
inductive Demand where
  | start
  | trimming
  | atMost
  | above
deriving DecidableEq

/-- Why a plain value is not of use: it does not convert, it goes beyond a limit, or it is an empty
list where a text or a number is asked for. -/
inductive Refusal where
  | notAFloat (text : String)
  | notAnInteger (text : String)
  | tooManyDigits (count : Nat)
  | tooLongToWrite
  | nanToInteger
  | infinityToInteger
  | notIterable (kind : ScalarKind)
  | noFirstCell (form : RowForm)
  | tooDeep (nesting : Nesting)
  | emptyList (demand : Demand)
deriving DecidableEq

namespace ScalarKind

/-- The name messages use. -/
def name : ScalarKind → String
  | integer => "int"
  | real => "float"
  | truth => "bool"

end ScalarKind

/-- The name messages use. -/
def Nesting.name : Nesting → String
  | array => "array"
  | object => "object"

/-- What messages say of an empty list that cannot do what it is asked for. -/
def Demand.complaint : Demand → String
  | start => "'list' object has no attribute 'startswith'"
  | trimming => "'list' object has no attribute 'strip'"
  | atMost => "'<=' not supported between instances of 'list' and 'int'"
  | above => "'>' not supported between instances of 'list' and 'int'"

namespace Refusal

/-- The most digits an integer may have in a text. -/
def digitLimit : Nat := 4300

/-- The wording. A text that is no integer is shown up to the 200th character of its quoted
form. -/
def message : Refusal → String
  | notAFloat text => "could not convert string to float: " ++ Text.quoted text
  | notAnInteger text =>
    "invalid literal for int() with base 10: "
      ++ String.ofList ((Text.quotedChars text.toList).take 200)
  | tooManyDigits count =>
    "Exceeds the limit (4300 digits) for integer string conversion: value has " ++ toString count
      ++ " digits; use sys.set_int_max_str_digits() to increase the limit"
  | tooLongToWrite =>
    "Exceeds the limit (4300 digits) for integer string conversion; "
      ++ "use sys.set_int_max_str_digits() to increase the limit"
  | nanToInteger => "cannot convert float NaN to integer"
  | infinityToInteger => "cannot convert float infinity to integer"
  | notIterable kind => "'" ++ kind.name ++ "' object is not iterable"
  | noFirstCell .list => "list index out of range"
  | noFirstCell .tuple => "tuple index out of range"
  | tooDeep nesting =>
    "maximum recursion depth exceeded while decoding a JSON " ++ nesting.name
      ++ " from a unicode string"
  | emptyList demand => demand.complaint

end Refusal

/-! ## Faults of the driver -/

/-- What the database driver raises: an error of the database layer, one about the arguments of a
call to it, a missing driver module, or anything else. -/
inductive FaultKind where
  | database
  | argument
  | missingModule
  | other
deriving DecidableEq

/-- A fault with its text. -/
structure Fault where
  kind : FaultKind
  message : String
deriving DecidableEq

/-! ## Failures of the check -/

/-- Every kind of trouble there is. -/
inductive TroubleKind where
  | check
  | settings
  | threshold
  | extraction
  | noColumns
  | noRows
  | notANumber
  | notQuoted
  | query
  | release
  | fault (kind : FaultKind)
  | value
  | overflow
  | type
  | index
  | depth
  | ability
deriving DecidableEq

/-- What is kept of a trouble that led to another one. -/
structure Record where
  kind : TroubleKind
  text : String
deriving DecidableEq

/-- Why a check failed. -/
inductive Cause where
  /-- A failure of no particular kind. -/
  | check (message : String)
  /-- Settings that cannot be used. -/
  | settings (message : String)
  /-- A threshold that is not written as one. -/
  | threshold (message spec : String)
  /-- A result without a measurement. -/
  | extraction (message : String)
  /-- A result without columns. -/
  | noColumns (message : String)
  /-- A result without rows. -/
  | noRows (message : String) (columns : List String)
  /-- A cell that holds no number; no text is the database's null. -/
  | notANumber (text : Option String)
  /-- A cell that is no quoted literal although it has to be one. -/
  | notQuoted (text reason : String)
  /-- The database could not be opened, asked or read. -/
  | query (message sql : String) (origin : Option Record)
  /-- The result could not be released after it had been read. -/
  | release (message : String) (origin : Option Record)
deriving DecidableEq

/-- A failure: its cause and, if releasing the result failed as well, the trouble met there. -/
structure Failure where
  cause : Cause
  released : Option Record := none
deriving DecidableEq

namespace Cause

/-- The text a result without columns is reported with. -/
def noColumnsText : String := "No columns returned"

/-- The text a result without rows is reported with. -/
def noRowsText : String := "No rows returned"

/-- The wording of a cause by itself. -/
def message : Cause → String
  | check message => message
  | settings message => message
  | threshold message spec => message ++ ": " ++ Text.quoted spec
  | extraction message => message
  | noColumns message => message
  | noRows message _ => message
  | notANumber none => "value NULL is not a number"
  | notANumber (some text) => "value " ++ Text.quoted text ++ " is not a number"
  | notQuoted text reason => "cannot unquote " ++ Text.quoted text ++ ": " ++ reason
  | query message _ _ => message
  | release message _ => message

/-- The kind of failure. -/
def kind : Cause → TroubleKind
  | check _ => .check
  | settings _ => .settings
  | threshold _ _ => .threshold
  | extraction _ => .extraction
  | noColumns _ => .noColumns
  | noRows _ _ => .noRows
  | notANumber _ => .notANumber
  | notQuoted _ _ => .notQuoted
  | query _ _ _ => .query
  | release _ _ => .release

/-- The statement a failed query was about, cut after 200 characters. -/
def statementNote : Cause → String
  | query _ sql _ =>
    if sql = "" then ""
    else if 200 < sql.length then " (SQL: " ++ String.ofList (sql.toList.take 200) ++ "...)"
    else " (SQL: " ++ sql ++ ")"
  | _ => ""

end Cause

namespace Failure

/-- The full wording: the cause, the trouble met while releasing, the statement. -/
def message (failure : Failure) : String :=
  let joined :=
    match failure.released with
    | none => failure.cause.message
    | some record => failure.cause.message ++ "; release error: " ++ record.text
  joined ++ failure.cause.statementNote

/-- A failure by which a setting is rejected. -/
def ofSettings (message : String) : Failure :=
  { cause := .settings message }

/-- Trouble met while releasing is named after the failure itself. -/
theorem message_released (failure : Failure) (record : Record) :
    { failure with released := some record }.message =
      failure.cause.message ++ "; release error: " ++ record.text
        ++ failure.cause.statementNote := rfl

theorem message_unreleased (cause : Cause) :
    message { cause } = cause.message ++ cause.statementNote := rfl

end Failure

/-! ## Any trouble -/

/-- Whatever breaks a step off. -/
inductive Trouble where
  | failure (failure : Failure)
  | fault (fault : Fault)
  | refusal (refusal : Refusal)
deriving DecidableEq

namespace Trouble

/-- The wording. -/
def message : Trouble → String
  | failure f => f.message
  | fault f => f.message
  | refusal r => r.message

/-- The kind, for a refusal that of the values it is about. -/
def kind : Trouble → TroubleKind
  | failure f => f.cause.kind
  | fault f => .fault f.kind
  | refusal (.notIterable _) => .type
  | refusal (.noFirstCell _) => .index
  | refusal .infinityToInteger => .overflow
  | refusal (.tooDeep _) => .depth
  | refusal (.emptyList .start) => .ability
  | refusal (.emptyList .trimming) => .ability
  | refusal (.emptyList _) => .type
  | refusal _ => .value

/-- What is kept of it. -/
def record (trouble : Trouble) : Record :=
  { kind := trouble.kind, text := trouble.message }

/-- Whether the database layer raised it. Wrong arguments of a call count as well. -/
def isDatabase : Trouble → Bool
  | fault { kind := .database, .. } => true
  | fault { kind := .argument, .. } => true
  | _ => false

/-- Whether it tells that a database cannot be opened: the database layer raised it or the driver
module is missing. -/
def isUnopenable : Trouble → Bool
  | fault { kind := .missingModule, .. } => true
  | trouble => trouble.isDatabase

end Trouble

end SqlGauge
