import SqlAlgebra.CommandLine.Run

/-!
# The command-line program

Collects what a command can see, runs it, and prints what it leaves behind.
-/

namespace SqlAlgebra.CommandLine

open SqlAlgebra.Configuration (Entry)

/-- The variables that are looked at. -/
def variableNames : List String :=
  [configVariable, "SQLFED__COMPILER__MAX_DEPTH", "SQLFED__COMPILER__DERIVE_ANONYMOUS_ALIASES",
    "SQLFED__COMPILER__ANONYMOUS_ALIAS_PREFIX", "SQLFED__LOGGING__LEVEL",
    "SQLFED__LOGGING__JSON"]

/-- The variables that are set, with their values. -/
def readEnvironment : IO (List (String × String)) :=
  variableNames.filterMapM fun name => do
    return (← IO.getEnv name).map fun value => (name, value)

/-- What stands at a path. -/
def readEntry (path : String) : IO Entry := do
  try
    return .file (← IO.FS.readFile path)
  catch
    | .noFileOrDirectory .. => return .missing
    | _ => return .directory

/-- All lines of the standard input. -/
partial def readLines (stream : IO.FS.Stream) (text : String) : IO String := do
  let line ← stream.getLine
  if line.isEmpty then return text else readLines stream (text ++ line)

/-- The paths that a command looks at. -/
def pathsOf (invocation : Invocation) : List String :=
  match invocation.command with
  | .convert file _ => [invocation.configPath, file]
  | .checkConfig => [invocation.configPath]

/-- Collects what an invocation can see. -/
def readWorld (environment : List (String × String)) (invocation : Invocation) : IO World := do
  let entries ← (pathsOf invocation).mapM fun path => do return (path, ← readEntry path)
  let input ← match invocation.command with
    | .convert "-" _ => readLines (← IO.getStdin) ""
    | _ => pure ""
  return {
    entry := fun path => ((entries.find? fun e => e.1 == path).map Prod.snd).getD .missing
    input := input
    environment := environment }

end SqlAlgebra.CommandLine

open SqlAlgebra.CommandLine in
/-- Runs the command that the arguments describe. -/
def main (arguments : List String) : IO UInt32 := do
  let environment ← readEnvironment
  let named := (environment.find? fun v => v.1 == configVariable).map Prod.snd
  match parse named arguments with
  | .error e =>
    IO.eprintln ("error: " ++ e.message)
    return 2
  | .ok invocation =>
    let outcome := run (← readWorld environment invocation) invocation
    IO.print outcome.output
    IO.eprint outcome.errors
    return outcome.exitCode.toUInt32
