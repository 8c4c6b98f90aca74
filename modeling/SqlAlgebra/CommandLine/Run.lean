import SqlAlgebra.CommandLine.Arguments
import SqlAlgebra.Configuration.Load
import SqlAlgebra.Conversion.Engine
import SqlAlgebra.Json.Printer
import SqlAlgebra.Report.Setting
import SqlAlgebra.Wire.Plan
import SqlAlgebra.Wire.Report
import SqlAlgebra.Yaml.Printer

/-!
# Running a command

What a command prints and which exit code it gives, as a function of the files it can see,
the standard input and the environment. A failure is always printed as a report; its exit
code tells a bad statement from a bad setup.
-/

namespace SqlAlgebra.CommandLine

open SqlAlgebra.Configuration (Entry)

/-- What a command can see. -/
structure World where
  /-- What stands at a path. -/
  entry : String → Entry
  input : String := ""
  environment : List (String × String) := []

/-- What a command leaves behind. -/
structure Outcome where
  exitCode : Nat
  output : String := ""
  errors : String := ""
deriving DecidableEq, Repr

/-- A failure of a command: its report and its exit code. -/
structure Failure where
  report : Report
  exitCode : Nat

/-! ## Colours -/

/-- Text between two escape sequences. -/
def coloured (opening closing text : String) : String :=
  "\x1b[" ++ opening ++ "m" ++ text ++ "\x1b[" ++ closing ++ "m"

/-- Bold text. -/
def bold : String → String := coloured "1" "0"

/-- Faint text. -/
def dimmed : String → String := coloured "2" "0"

/-- Red text. -/
def red : String → String := coloured "31" "39"

/-- Green text. -/
def green : String → String := coloured "32" "39"

/-- Yellow text. -/
def yellow : String → String := coloured "33" "39"

/-! ## Failures -/

/-- The exit code of a report: data that cannot be read count as wrong usage. -/
def exitCodeOf (report : Report) : Nat :=
  if report.code = .serializationFailed then 2
  else
    match report.category with
    | .conversion => 5
    | .config => 3
    | .internal => 1

/-- The failure that a report stands for. -/
def Failure.ofReport (report : Report) : Failure := ⟨report, exitCodeOf report⟩

/-- The failure to read a statement file. -/
def Failure.unreadable (path reason : String) : Failure :=
  { report :=
      { code := .unknown
        message := "Failed to read statement file '" ++ path ++ "': " ++ reason }
    exitCode := 2 }

/-! ## Answers -/

/-- Named data in a format for machines, or nothing in the format for humans. -/
def rendered (format : OutputFormat) (fields : List (String × Json)) : String :=
  match format with
  | .human => ""
  | .json => (Json.object fields).pretty ++ "\n"
  | .yaml => Yaml.document (.object fields) ++ "\n"

/-- The fields that every answer for machines begins with. -/
def envelope (status : String) (exitCode : Nat) : List (String × Json) :=
  [("status", .string status), ("exit_code", .ofNat exitCode)]

/-- What a failed command leaves behind. -/
def Failure.outcome (format : OutputFormat) (failure : Failure) : Outcome :=
  let errors :=
    if format = .human then
      bold (red "Error:") ++ " " ++ failure.report.text ++ "\n" ++ failure.report.toJson.pretty ++
        "\n"
    else rendered format (envelope "error" failure.exitCode ++ failure.report.fields)
  { exitCode := failure.exitCode, errors := errors }

/-- What a successful command leaves behind. -/
def success (format : OutputFormat) (human : String) (fields : List (String × Json)) : Outcome :=
  let output := if format = .human then human else rendered format (envelope "success" 0 ++ fields)
  { exitCode := 0, output := output }

/-! ## Settings -/

/-- The settings of an invocation: the log level may be given as an option. -/
def settingsOf (world : World) (invocation : Invocation) : Except Report AppSettings := do
  let path := invocation.configPath
  let settings ← (Configuration.load world.entry path world.environment).mapError
    (·.toReport path)
  match invocation.logLevel with
  | none => return settings
  | some level =>
    if Violation.isLevel level then
      return { settings with logging := { settings.logging with level := level } }
    else
      throw {
        code := .invalidConfig
        message := "Invalid --log-level '" ++ level ++ "': level: Validation error: " ++
          (Violation.level level).code ++ " [\x7b\"value\": String(" ++ Text.quoted level ++
          ")\x7d]"
        hint := some "Use one of trace, debug, info, warn, error, off" }

/-! ## Commands -/

/-- Reads the statement in a text. -/
def parseStatement (text : String) : Except Report Statement :=
  let refused (message : String) : Report :=
    { code := .serializationFailed
      message := "Invalid statement JSON: " ++ message
      hint := some ("Input must be a serde-encoded Statement, e.g. " ++
        "\x7b\"type\": \"Select\", ...\x7d") }
  match Json.parseWithin 127 text with
  | .error e => .error (refused e.message)
  | .ok json =>
    match Wire.statement false json with
    | .error fault => .error (refused fault.message)
    | .ok statement => .ok statement

/-- Reads the statement that an invocation names. -/
def readStatement (world : World) (file : String) : Except Failure Statement := do
  let text ←
    if file = "-" then pure world.input
    else
      match world.entry file with
      | .file text => pure text
      | .missing => throw (.unreadable file "No such file or directory (os error 2)")
      | .directory => throw (.unreadable file "Is a directory (os error 21)")
  (parseStatement text).mapError .ofReport

/-- A text without blanks at its end. -/
def trimEnd (text : String) : String :=
  String.ofList (text.toList.reverse.dropWhile Text.isBlank).reverse

/-- A plan as a text. -/
def planText (format : PlanFormat) (plan : Plan) : String :=
  match format with
  | .display => plan.render
  | .indent => trimEnd plan.indented
  | .json => plan.toJson.pretty

/-- A plan as a value. -/
def planValue (format : PlanFormat) (plan : Plan) : Json :=
  match format with
  | .json => plan.toJson.sorted
  | format => .string (planText format plan)

/-- Converts the statement in a file. -/
def convert (world : World) (invocation : Invocation) (settings : AppSettings) (file : String)
    (format : PlanFormat) : Except Failure Outcome := do
  let statement ← readStatement world file
  let compiler : Compiler := { settings := settings.compiler }
  let plan ← (compiler.compile statement).mapError .ofReport
  return success invocation.output (planText format plan ++ "\n")
    [("source", .string file), ("tables", .ofStrings plan.scannedTables),
      ("plan", planValue format plan)]

/-- The word for a truth value. -/
def truthWord (b : Bool) : String := if b then "true" else "false"

/-- The settings line by line. -/
def settingsText (path : String) (found : Bool) (settings : AppSettings) : String :=
  dimmed "[Config:" ++ " " ++ yellow path ++ " " ++ dimmed "]" ++ "\n" ++
    (if found then "" else dimmed "File not found, using defaults and environment." ++ "\n") ++
    bold (green "Configuration is valid.") ++ "\n" ++
    "  compiler.max_depth: " ++ settings.compiler.maxDepth.toNat.repr ++ "\n" ++
    "  compiler.derive_anonymous_aliases: " ++ truthWord settings.compiler.deriveAliases ++ "\n" ++
    "  compiler.anonymous_alias_prefix: " ++ settings.compiler.aliasStem ++ "\n" ++
    "  logging.level: " ++ settings.logging.level ++ "\n" ++
    "  logging.json: " ++ truthWord settings.logging.json ++ "\n"

/-- Shows the settings. -/
def checkConfig (world : World) (invocation : Invocation) (settings : AppSettings) : Outcome :=
  let path := invocation.configPath
  let found := (world.entry path).exists
  success invocation.output (settingsText path found settings)
    [("config_file", .string path), ("found", .bool found),
      ("max_depth", .ofNat settings.compiler.maxDepth.toNat),
      ("derive_anonymous_aliases", .bool settings.compiler.deriveAliases),
      ("anonymous_alias_prefix", .string settings.compiler.aliasStem),
      ("log_level", .string settings.logging.level), ("log_json", .bool settings.logging.json)]

/-- Runs a command. -/
def attempt (world : World) (invocation : Invocation) : Except Failure Outcome := do
  let settings ← (settingsOf world invocation).mapError .ofReport
  match invocation.command with
  | .convert file format => convert world invocation settings file format
  | .checkConfig => return checkConfig world invocation settings

/-- What an invocation leaves behind. -/
def run (world : World) (invocation : Invocation) : Outcome :=
  match attempt world invocation with
  | .ok outcome => outcome
  | .error failure => failure.outcome invocation.output

/-- The variable that names the configuration file. -/
def configVariable : String := "SQLFED_CONFIG"

/-- The value of a variable. -/
def World.valueOf? (world : World) (name : String) : Option String :=
  (world.environment.find? fun v => v.1 == name).map Prod.snd

end SqlAlgebra.CommandLine
