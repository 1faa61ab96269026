import SqlGauge.Settings.Flags

/-!
# The help text

The help text lists the flags twice: in a synopsis, and one by one with what they are for. Both are
filled into lines of 78 characters, `fill` putting as many words on a line as fit.
-/

namespace SqlGauge.Help

/-- The name of the program. -/
def programName : String := "sensu-go-sql-select-count-check"

/-- What the program does. -/
def purpose : String := "Query SQL DB and check for threshold"

/-- The most characters of a line. -/
def lineWidth : Nat := 78

/-- The column at which the text about a flag begins. -/
def textColumn : Nat := 24

/-! ## Filling lines -/

/-- Fills words into lines of at most `width` characters. The given line is the one that is being
filled; a word that is too wide has a line of its own. -/
def fillFrom (width : Nat) (line : String) : List String → List String
  | [] => [line]
  | word :: rest =>
    if line.length + 1 + word.length ≤ width then fillFrom width (line ++ " " ++ word) rest
    else line :: fillFrom width word rest

/-- Fills words into lines of at most `width` characters. -/
def fill (width : Nat) : List String → List String
  | [] => []
  | word :: rest => fillFrom width word rest

/-- As many spaces. -/
def spaces (count : Nat) : String :=
  String.ofList (List.replicate count ' ')

/-- The first line after a lead and the others below it. -/
def hang (lead : String) (indent : Nat) : List String → List String
  | [] => [lead]
  | first :: rest => (lead ++ first) :: rest.map (spaces indent ++ ·)

/-! ## Flags -/

/-- A flag as the help text shows it. -/
structure Entry where
  spellings : List String
  /-- What stands for the value, if the flag takes one. -/
  placeholder : Option String := none
  /-- Whether the spellings do different things. -/
  isSwitch : Bool := false
  text : String

/-- What stands for the value of a setting. -/
def placeholderOf (setting : Setting) : String :=
  match setting with
  | .driver => "\x7b" ++ String.intercalate "," Settings.allowedDrivers ++ "\x7d"
  | .queryArgs => "ARG"
  | other => other.path.toUpper

/-- The entry of a setting. -/
def entryOf (setting : Setting) : Entry where
  spellings := (Flags.spellingsOf setting).map fun spelling => String.ofList spelling.text
  placeholder := if (Flags.switch? setting).isSome then none else some (placeholderOf setting)
  isSwitch := (Flags.switch? setting).isSome
  text := setting.usage ++ " (env: " ++ setting.variableName ++ ")"

/-- The entry of the flag that asks for help. -/
def helpEntry : Entry where
  spellings := Flags.helpSpellings.map fun spelling => String.ofList spelling.text
  text := "show this help message and exit"

/-- All entries. -/
def entries : List Entry :=
  helpEntry :: Setting.all.map entryOf

/-- A spelling with what stands for the value. -/
def Entry.withPlaceholder (entry : Entry) (spelling : String) : String :=
  match entry.placeholder with
  | some placeholder => spelling ++ " " ++ placeholder
  | none => spelling

/-- The entry in the synopsis: the first spelling, or all of a switch. -/
def Entry.synopsis (entry : Entry) : String :=
  let shown := if entry.isSwitch then entry.spellings else entry.spellings.take 1
  "[" ++ String.intercalate " | " (shown.map entry.withPlaceholder) ++ "]"

/-- The entry in the list. -/
def Entry.heading (entry : Entry) : String :=
  String.intercalate ", " (entry.spellings.map entry.withPlaceholder)

/-- The lines of the list about an entry. The text begins beside the heading if there is room. -/
def Entry.lines (entry : Entry) : List String :=
  let text := fill (lineWidth - textColumn) (entry.text.splitOn " ")
  let heading := "  " ++ entry.heading
  if heading.length + 2 ≤ textColumn then
    hang (heading ++ spaces (textColumn - heading.length)) textColumn text
  else heading :: text.map (spaces textColumn ++ ·)

/-! ## The text -/

/-- The lines of the synopsis. -/
def synopsisLines : List String :=
  let lead := "usage: " ++ programName ++ " "
  hang lead lead.length (fill (lineWidth - lead.length) (entries.map Entry.synopsis))

/-- The lines of the examples. -/
def exampleLines : List String :=
  ["Examples:",
    "  " ++ programName ++ " --dburl mysql://user:pw@db:3306/app "
      ++ "-q 'SELECT COUNT(*) FROM jobs' -w 10 -c 20",
    "  " ++ programName ++ " --driver postgresql -H db -d app "
      ++ "-q 'SELECT x FROM t WHERE k = %s' -a key -c @0"]

/-- The help text. -/
def text : String :=
  String.join <| List.map (· ++ "\n") <|
    synopsisLines ++ ["", purpose, "", "options:"] ++ entries.flatMap Entry.lines ++ [""]
      ++ exampleLines

end SqlGauge.Help
