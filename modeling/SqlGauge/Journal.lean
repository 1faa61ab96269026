/-!
# What a run leaves behind

A run asks something of the database and says something in its log. `Event` is one thing asked,
`Line` one line logged, and a `Journal` holds both in their order. Journals of stretches of work
that follow each other are appended.
-/

namespace SqlGauge

/-- One thing that is asked of the database. -/
inductive Event where
  /-- Open a database at an address, with arguments for the driver. -/
  | openEngine (address : String) (arguments : List (String × String))
  | connect
  /-- Send statements as they stand, without looking for placeholders. -/
  | withoutParameters
  /-- Execute a statement, with arguments if there are any. -/
  | execute (statement : String) (arguments : Option (List String))
  /-- Hand over the row with this number, the first one being 1. -/
  | row (number : Nat)
  /-- Release a result that was not read from a connection. -/
  | release
  | closeCursor
  | closeConnection
  | dispose
deriving DecidableEq

/-- How serious a line of the log is. -/
inductive Level where
  | warning
  | error
deriving DecidableEq

/-- The name of a level in the log. -/
def Level.name : Level → String
  | warning => "WARNING"
  | error => "ERROR"

/-- A line of the log. -/
structure Line where
  level : Level
  text : String
deriving DecidableEq

/-- The events and the lines of a stretch of work. -/
structure Journal where
  events : List Event := []
  lines : List Line := []
deriving DecidableEq

namespace Journal

/-- A stretch of work after another one. -/
def append (first second : Journal) : Journal where
  events := first.events ++ second.events
  lines := first.lines ++ second.lines

instance : Append Journal := ⟨append⟩

@[simp] theorem events_append (first second : Journal) :
    (first ++ second).events = first.events ++ second.events := rfl

theorem mk_append (events events' : List Event) (lines lines' : List Line) :
    (⟨events, lines⟩ ++ ⟨events', lines'⟩ : Journal) = ⟨events ++ events', lines ++ lines'⟩ := rfl

/-- Only events. -/
def ofEvents (events : List Event) : Journal := { events }

/-- Only lines. -/
def ofLines (lines : List Line) : Journal := { lines }

end Journal

/-- What came of a stretch of work, with its journal. -/
structure Outcome (ε α : Type) where
  result : Except ε α
  journal : Journal

end SqlGauge
