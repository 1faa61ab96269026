import SqlGauge.Program

/-!
# Command line

Gathers what the program works on from the surroundings (arguments, environment variables, and an
event if one comes on the standard input), runs it, and hands over what came out: the line on the
standard output, the log on the standard error, and the exit code.
-/

namespace SqlGauge.Main

/-- The database that is met when no driver module is linked in. -/
def unlinked : Database :=
  { createFault := some (.fault ⟨.missingModule, "no database driver is linked in"⟩) }

/-- The variables of the environment that give settings. -/
def environment : IO Environment :=
  Setting.all.filterMapM fun setting => do
    return (← IO.getEnv setting.variableName).map fun value => (setting.variableName, value)

/-- The event on the standard input, unless that is a terminal or empty. -/
def event : IO (Option String) := do
  let input ← IO.getStdin
  if ← input.isTty then return none
  let text := String.fromUTF8? (← input.readBinToEnd)
  return text.filter (· ≠ "")

/-- Writes the log. -/
def writeLines (lines : List Line) : IO Unit :=
  lines.forM fun line => IO.eprintln ("[" ++ line.level.name ++ "] " ++ line.text)

/-- Hands over how the program ended. -/
def conclude : Except Trouble Program.Ending → IO UInt32
  | .ok ending => do
    writeLines ending.journal.lines
    IO.print ending.output
    return ending.exitCode.toUInt32
  | .error trouble => do
    IO.eprintln trouble.message
    return State.unknown.exitCode.toUInt32

end SqlGauge.Main

/-- Runs the program on what the surroundings give. -/
def main (arguments : List String) : IO UInt32 := do
  let environment ← SqlGauge.Main.environment
  let event ← SqlGauge.Main.event
  SqlGauge.Main.conclude (SqlGauge.Program.run arguments environment event SqlGauge.Main.unlinked)
