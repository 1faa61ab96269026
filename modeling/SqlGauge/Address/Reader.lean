import SqlGauge.Address.Basic
import SqlGauge.Decimal.Lenient
import SqlGauge.Text.Word

/-!
# Reading an address

An address is read from the left: the scheme up to `://`, the user part up to its mark if there is
one, the host, the port, the database and the options. Each part takes what it can, and nothing is
asked of what is left over. So a text is refused only if it does not begin with a scheme, or if its
port is no integer.
-/

namespace SqlGauge.Address

/-- The scheme, with what follows the two slashes. -/
def readScheme? (text : List Char) : Option (List Char × List Char) :=
  let isPart := fun c => Text.isWordChar c || c = '+'
  match text.takeWhile isPart, text.dropWhile isPart with
  | [], _ => none
  | name, ':' :: '/' :: '/' :: rest => some (name, rest)
  | _, _ => none

/-- A user with maybe a password, as they are written. -/
structure Credentials where
  user : List Char
  password : Option (List Char)

/-- The user part. A password goes up to the first mark; a user alone goes up to the last mark
that comes before a colon or a slash. -/
def readCredentials (text : List Char) : Option Credentials × List Char :=
  let isPart := fun c => c ≠ ':' && c ≠ '/'
  let user := text.takeWhile isPart
  let rest := text.dropWhile isPart
  let alone :=
    match Text.cutLast? '@' user with
    | some (user, after) => (some ⟨user, none⟩, after ++ rest)
    | none => (none, text)
  match rest with
  | ':' :: more =>
    match Text.cut? '@' more with
    | some (password, after) => (some ⟨user, some password⟩, after)
    | none => alone
  | _ => alone

/-- A host in brackets, up to the last closing one. -/
def readBracketed? (text : List Char) : Option (List Char × List Char) :=
  let isPart := fun c => c ≠ '/' && c ≠ '?'
  match text with
  | '[' :: inner =>
    match Text.cutLast? ']' (inner.takeWhile isPart) with
    | some ([], _) => none
    | some (host, after) => some (host, after ++ inner.dropWhile isPart)
    | none => none
  | _ => none

/-- The host, if there is one. -/
def readHost (text : List Char) : Option (List Char) × List Char :=
  let isPart := fun c => c ≠ '/' && c ≠ ':' && c ≠ '?'
  match readBracketed? text with
  | some (host, rest) => (some host, rest)
  | none =>
    match text.takeWhile isPart with
    | [] => (none, text)
    | host => (some host, text.dropWhile isPart)

/-- A part that a mark introduces. -/
def readMarked (mark : Char) (isPart : Char → Bool) : List Char → Option (List Char) × List Char
  | [] => (none, [])
  | c :: rest =>
    if c = mark then (some (rest.takeWhile isPart), rest.dropWhile isPart) else (none, c :: rest)

/-- The options of a query part. A name without a value is left out. -/
def readOptions (text : List Char) : List (String × List String) :=
  (Text.pieces '&' text).foldl (fun options item =>
    match Text.cut? '=' item with
    | none => options
    | some (_, []) => options
    | some (name, value) =>
      addOption (String.ofList (Text.Percent.unescapeQuery name))
        (String.ofList (Text.Percent.unescapeQuery value)) options) []

/-- Why a text is no address. -/
inductive Flaw where
  | unreadable
  | port (refusal : Refusal)
deriving DecidableEq

/-- The parts of an address as they are written. -/
structure Parts where
  scheme : List Char
  credentials : Option Credentials
  host : Option (List Char)
  port : Option (List Char)
  database : Option (List Char)
  options : Option (List Char)

/-- Takes a text apart. -/
def readParts? (text : List Char) : Option Parts := do
  let (scheme, rest) ← readScheme? text
  let (credentials, rest) := readCredentials rest
  let (host, rest) := readHost rest
  let (port, rest) := readMarked ':' (fun c => c ≠ '/' && c ≠ '?') rest
  let (database, rest) := readMarked '/' (· ≠ '?') rest
  let (options, _) := readMarked '?' (· ≠ '\n') rest
  return { scheme, credentials, host, port, database, options }

/-- The address that parts stand for, given the number of the port. -/
def ofParts (parts : Parts) (port : Option Int) : Address where
  scheme := String.ofList parts.scheme
  user := parts.credentials.map fun credentials =>
    String.ofList (Text.Percent.unescape credentials.user)
  password := parts.credentials.bind fun credentials =>
    credentials.password.map fun password => String.ofList (Text.Percent.unescape password)
  host := parts.host.map String.ofList
  port := port
  database := parts.database.map String.ofList
  options := (parts.options.map readOptions).getD []

/-- The number of a port. -/
def readPort : Option (List Char) → Except Flaw (Option Int)
  | none => .ok none
  | some text => ((Lenient.integer (String.ofList text)).map some).mapError .port

/-- Reads an address. -/
def read (text : String) : Except Flaw Address :=
  match readParts? text.toList with
  | none => .error .unreadable
  | some parts => (readPort parts.port).map (ofParts parts)

end SqlGauge.Address
