import SqlGauge.Settings.Convert
import SqlGauge.Settings.Draft

/-!
# Settings from flags

Every setting has a flag. A long spelling may be abbreviated as long as one flag is left that it
could stand for; its value follows after an equals sign or as the next word. Short spellings may be
written together in one word, and the value of the last one may follow in it. Two dashes in the place
of the value mean that there is none, which leaves the setting blank. A truth value has a spelling
that sets it and one, with `--no-`, that unsets it. After a word of two dashes no word is a flag any
more.

Reading takes two passes. `classify` tells for each word what it is, which does not depend on the
words before it. `takeWords` then takes the flags one by one with their values. Words that belong to
no flag are gathered and refused in the end.
-/

namespace SqlGauge.Flags

/-! ## Spellings -/

/-- The settings that a flag turns on or off. -/
inductive Switch where
  | unquote
  | debug
deriving DecidableEq

/-- The setting that a switch turns. -/
def Switch.setting : Switch → Setting
  | unquote => .unquote
  | debug => .debug

/-- Turns a switch on or off. -/
def Switch.turn (draft : Draft) : Switch → Bool → Draft
  | unquote, on => draft.set .unquote on
  | debug, on => draft.set .debug on

/-- What a spelling does: it asks for help, gives a setting a value, or turns a switch. -/
inductive Action where
  | help
  | give (setting : Setting)
  | turn (switch : Switch) (on : Bool)
deriving DecidableEq

/-- A way to spell a flag. -/
structure Spelling where
  text : List Char
  action : Action
deriving DecidableEq

/-- A spelling with one dash. -/
def short (letter : Char) (action : Action) : Spelling :=
  ⟨['-', letter], action⟩

/-- A spelling with two dashes. -/
def long (name : String) (action : Action) : Spelling :=
  ⟨'-' :: '-' :: name.toList, action⟩

/-- The switch of a setting that is one. -/
def switch? : Setting → Option Switch
  | .unquote => some .unquote
  | .debug => some .debug
  | _ => none

/-- The spellings of a setting's flag. -/
def spellingsOf (setting : Setting) : List Spelling :=
  match switch? setting with
  | none =>
    setting.shortName.toList.map (short · (.give setting)) ++ [long setting.longName (.give setting)]
  | some switch =>
    setting.shortName.toList.map (short · (.turn switch true)) ++
      [long setting.longName (.turn switch true), long ("no-" ++ setting.longName) (.turn switch false)]

/-- The spellings of the flag that asks for help. -/
def helpSpellings : List Spelling :=
  [short 'h' .help, long "help" .help]

/-- All spellings, in the order in which messages list them. -/
def spellings : List Spelling :=
  helpSpellings ++ Setting.all.flatMap spellingsOf

/-- The spelling with exactly this text. -/
def spelling? (text : List Char) : Option Spelling :=
  spellings.find? (·.text = text)

namespace Spelling

/-- Whether the spelling has a single dash. -/
def isShort (spelling : Spelling) : Bool :=
  spelling.text.length = 2

/-- The spellings of the same flag. -/
def family (spelling : Spelling) : List Spelling :=
  match spelling.action with
  | .help => helpSpellings
  | .give setting => spellingsOf setting
  | .turn switch _ => spellingsOf switch.setting

end Spelling

/-- The name of a flag in messages. -/
def nameOf (family : List Spelling) : String :=
  String.intercalate "/" (family.map fun spelling => String.ofList spelling.text)

/-- A failure that is about a flag. -/
def flagFailure (spelling : Spelling) (complaint : String) : Failure :=
  .ofSettings ("argument " ++ nameOf spelling.family ++ ": " ++ complaint)

/-! ## What a word is -/

/-- A word of the command line. A flag may have a text attached to it. -/
inductive Word where
  | plain (text : List Char)
  | separator
  | unknown (text : List Char)
  | flag (spelling : Spelling) (attached : Option (List Char))
deriving DecidableEq

/-- Whether a word is a negative number, which is no flag. A line feed may follow it. -/
def isNegativeNumber (text : List Char) : Bool :=
  let isDigit := fun c => (Text.digitValue? c).isSome
  match text with
  | '-' :: body =>
    let number := if body.getLast? = some '\n' then body.dropLast else body
    let fraction := (number.dropWhile isDigit).drop 1
    number ≠ [] && number.all isDigit ||
      (number.dropWhile isDigit).head? = some '.' && fraction ≠ [] && fraction.all isDigit
  | _ => false

/-- The flags that a word with two dashes may stand for, with what is attached to each. -/
def abbreviated (text : List Char) : List Word :=
  let (start, attached) :=
    match Text.cut? '=' text with
    | some (before, after) => (before, some after)
    | none => (text, none)
  (spellings.filter fun spelling => start.isPrefixOf spelling.text).map (.flag · attached)

/-- The flags that a word with one dash may start with. -/
def clustered (text : List Char) : List Word :=
  (spelling? (text.take 2)).toList.map (.flag · (some (text.drop 2)))

/-- The text of the spelling of a flag. -/
def spelledText : Word → String
  | .flag spelling _ => String.ofList spelling.text
  | _ => ""

/-- The failure to tell which flag a word stands for. -/
def ambiguousFailure (text : List Char) (candidates : List Word) : Failure :=
  .ofSettings ("ambiguous option: " ++ String.ofList text ++ " could match "
    ++ String.intercalate ", " (candidates.map spelledText))

/-- A word that starts with a dash and is no spelling. -/
def guess (text : List Char) : Except Failure Word :=
  let candidates := if text.take 2 = ['-', '-'] then abbreviated text else clustered text
  match candidates with
  | [word] => .ok word
  | [] =>
    if isNegativeNumber text || text.contains ' ' then .ok (.plain text) else .ok (.unknown text)
  | _ => .error (ambiguousFailure text candidates)

/-- The flag that is spelled in full before an equals sign. -/
def assigned? (text : List Char) : Option Word := do
  let (before, after) ← Text.cut? '=' text
  let spelling ← spelling? before
  return .flag spelling (some after)

/-- Tells what a word is. -/
def classifyWord (text : List Char) : Except Failure Word :=
  if text.head? ≠ some '-' then .ok (.plain text)
  else
    match spelling? text with
    | some spelling => .ok (.flag spelling none)
    | none =>
      if text = ['-'] then .ok (.plain text)
      else
        match assigned? text with
        | some word => .ok word
        | none => guess text

/-- Tells what the words are. -/
def classify : List (List Char) → Except Failure (List Word)
  | [] => .ok []
  | word :: rest =>
    if word = ['-', '-'] then .ok (.separator :: rest.map .plain)
    else do
      let first ← classifyWord word
      return first :: (← classify rest)

/-! ## Flags within a word -/

/-- The flags of one word: those without a value, and then maybe one that takes a value, which
follows in the word or is the next one. -/
structure Cluster where
  switches : List Spelling := []
  valued : Option (Spelling × Setting × Option (List Char)) := none

/-- The failure of a flag that takes no value but has a text attached. -/
def ignoredFailure (spelling : Spelling) (attached : List Char) : Failure :=
  flagFailure spelling ("ignored explicit argument " ++ Text.quoted (String.ofList attached))

/-- A flag with nothing attached. -/
def bare (spelling : Spelling) : Cluster :=
  match spelling.action with
  | .give setting => { valued := some (spelling, setting, none) }
  | _ => { switches := [spelling] }

/-- A flag with a text attached: its value or, after a short spelling, further short ones. -/
def attach (spelling : Spelling) (attached : List Char) : Except Failure Cluster :=
  match spelling.action with
  | .give setting => .ok { valued := some (spelling, setting, some attached) }
  | _ =>
    match attached with
    | [] => .error (ignoredFailure spelling attached)
    | letter :: rest =>
      match (if spelling.isShort then spelling? ['-', letter] else none) with
      | none => .error (ignoredFailure spelling attached)
      | some next => do
        let cluster ← if rest = [] then .ok (bare next) else attach next rest
        return { cluster with switches := spelling :: cluster.switches }

/-! ## Taking the flags -/

/-- Why no settings came out. -/
inductive Stop where
  | help
  | failure (failure : Failure)

/-- What has been taken so far: the settings, the items of the list if its flag was there, and the
words that belong to no flag. -/
structure Taken where
  draft : Draft
  items : Option (List String) := none
  extras : List (List Char) := []

/-- The failure to use a value. -/
def valueFailure (spelling : Spelling) (kind : Kind) (text : String) : Stop :=
  .failure (flagFailure spelling ("invalid " ++ kind.name ++ " value: " ++ Text.quoted text))

/-- The failure to find a driver among those there are. -/
def choiceFailure (spelling : Spelling) (text : String) : Stop :=
  .failure (flagFailure spelling ("invalid choice: " ++ Text.quoted text ++ " (choose from "
    ++ String.intercalate ", " (Settings.allowedDrivers.map Text.quoted) ++ ")"))

/-- What is written in the place of a value to give none. -/
def noValue : String := "--"

/-- Adds items to the list, which is given from then on. -/
def Taken.add (taken : Taken) (items : List String) : Taken :=
  { taken with items := some (taken.items.getD [] ++ items) }

/-- Gives a setting no value. To a list that adds nothing. -/
def leave (setting : Setting) (taken : Taken) : Taken :=
  if setting = .queryArgs then taken.add [] else { taken with draft := taken.draft.leave setting }

/-- Gives a setting the value that a text stands for. A list gathers the values of all its
flags. -/
def give (spelling : Spelling) (setting : Setting) (text : String) (taken : Taken) :
    Except Stop Taken :=
  if text = noValue then .ok (leave setting taken)
  else if setting = .queryArgs then .ok (taken.add (splitCommas text))
  else if setting = .driver ∧ text ∉ Settings.allowedDrivers then
    .error (choiceFailure spelling text)
  else
    match setting.convert (.string text) with
    | .ok value => .ok { taken with draft := taken.draft.set setting value }
    | .error _ => .error (valueFailure spelling setting.kind text)

/-- Takes a flag without a value. -/
def takeSwitch (taken : Taken) (spelling : Spelling) : Except Stop Taken :=
  match spelling.action with
  | .help => .error .help
  | .give _ => .ok taken
  | .turn switch on => .ok { taken with draft := switch.turn taken.draft on }

/-- The flags of a word with a value for the last one, if that takes one. -/
structure Settled where
  switches : List Spelling
  valued : Option (Spelling × Setting × List Char)
  /-- Whether the value is the next word. -/
  usesNext : Bool

/-- Finds the value that the flags of a word need, which may be the next word. -/
def settle (cluster : Cluster) (next : Option Word) : Except Failure Settled :=
  match cluster.valued with
  | none => .ok ⟨cluster.switches, none, false⟩
  | some (spelling, setting, some text) =>
    .ok ⟨cluster.switches, some (spelling, setting, text), false⟩
  | some (spelling, setting, none) =>
    match next with
    | some (.plain text) => .ok ⟨cluster.switches, some (spelling, setting, text), true⟩
    | _ => .error (flagFailure spelling "expected one argument")

/-- Takes the flags of a word. -/
def takeSettled (settled : Settled) (taken : Taken) : Except Stop Taken := do
  let turned ← settled.switches.foldlM takeSwitch taken
  match settled.valued with
  | none => return turned
  | some (spelling, setting, text) => give spelling setting (String.ofList text) turned

/-- Keeps a word that belongs to no flag. -/
def Taken.leave (taken : Taken) (text : List Char) : Taken :=
  { taken with extras := taken.extras ++ [text] }

/-- Takes the words in order. A flag whose value is the next word has taken that as well. -/
def takeWords (taken : Taken) : List Word → Except Stop Taken
  | [] => .ok taken
  | .plain text :: rest => takeWords (taken.leave text) rest
  | .separator :: rest => takeWords (taken.leave ['-', '-']) rest
  | .unknown text :: rest => takeWords (taken.leave text) rest
  | .flag spelling attached :: rest => do
    let cluster ←
      match attached with
      | none => pure (bare spelling)
      | some text => (attach spelling text).mapError .failure
    let settled ← (settle cluster rest.head?).mapError .failure
    let next ← takeSettled settled taken
    if settled.usesNext then
      match rest with
      | [] => .ok next
      | _ :: others => takeWords next others
    else takeWords next rest

/-! ## Settings -/

/-- The settings that flags give over the fallbacks, before they are validated. -/
def apply (fallbacks : Settings) (arguments : List String) : Except Stop Draft := do
  let words ← (classify (arguments.map String.toList)).mapError .failure
  let taken ← takeWords { draft := { settings := fallbacks } } words
  if taken.extras ≠ [] then
    .error (.failure (.ofSettings ("unrecognized arguments: "
      ++ String.intercalate " " (taken.extras.map String.ofList))))
  else
    match taken.items with
    | none => return taken.draft
    | some items => return taken.draft.set .queryArgs items

end SqlGauge.Flags

namespace SqlGauge.Settings

/-- What a command line asks for: help, or a check with these settings. -/
inductive Request where
  | help
  | check (draft : Draft)

/-- Reads a command line. Values come from the flags, else from the environment, else they are
built in; those of the environment have to convert even if a flag replaces them. -/
def read (arguments : List String) (environment : Environment) : Except Trouble Request := do
  let fallbacks ← ofEnvironment environment
  match Flags.apply fallbacks arguments with
  | .error .help => return .help
  | .error (.failure failure) => .error (.failure failure)
  | .ok draft =>
    draft.validate
    return .check draft

end SqlGauge.Settings
