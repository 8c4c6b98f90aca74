/-!
# Command-line arguments

The arguments are options, a command, and the command's own options and arguments. Options
that hold for every command may stand before or after its name; the one after wins. An option
is followed by its value, either as the next argument or after an equals sign.
-/

namespace SqlAlgebra.CommandLine

/-- How results and failures are printed. -/
inductive OutputFormat
  | human
  | json
  | yaml
deriving DecidableEq, Repr

/-- How plans are printed. -/
inductive PlanFormat
  | display
  | indent
  | json
deriving DecidableEq, Repr

/-- What the program is asked to do. -/
inductive Command
  /-- Converts the statement in a file, or in the standard input if its name is `-`. -/
  | convert (file : String) (format : PlanFormat)
  /-- Loads the settings and shows them. -/
  | checkConfig
deriving DecidableEq, Repr

/-- A command with the options that hold for every command. -/
structure Invocation where
  command : Command
  output : OutputFormat
  configPath : String
  logLevel : Option String
deriving DecidableEq, Repr

/-- Why arguments are refused. -/
inductive UsageError
  | unknownOption (name : String)
  | missingValue (name : String)
  | badValue (name value : String)
  | repeatedOption (name : String)
  | unexpectedArgument (argument : String)
  | missingFile
  | missingCommand
  | unknownCommand (name : String)
deriving DecidableEq, Repr

/-- The wording of refused arguments. -/
def UsageError.message : UsageError → String
  | unknownOption name => "unexpected argument '" ++ name ++ "' found"
  | missingValue name => "a value is required for '--" ++ name ++ "' but none was supplied"
  | badValue name value => "invalid value '" ++ value ++ "' for '--" ++ name ++ "'"
  | repeatedOption name => "the argument '--" ++ name ++ "' cannot be used multiple times"
  | unexpectedArgument argument => "unexpected argument '" ++ argument ++ "' found"
  | missingFile => "the argument '<FILE>' was not provided"
  | missingCommand => "a command is required: convert or check-config"
  | unknownCommand name => "unrecognized subcommand '" ++ name ++ "'"

/-! ## Options -/

/-- Whether an argument looks like an option; a single dash does not. -/
def isOption (argument : String) : Bool :=
  match argument.toList with
  | '-' :: _ :: _ => true
  | _ => false

/-- Splits an option into its name and the value after an equals sign, if there is one; the
two dashes in front of the name are dropped. Short options have no name. -/
def splitOption (argument : String) : Option (String × Option String) :=
  match argument.toList with
  | '-' :: '-' :: cs =>
    let (name, rest) := cs.span (· != '=')
    some (String.ofList name, match rest with
      | [] => none
      | _ :: value => some (String.ofList value))
  | _ => none

/-- Options with their values, the latest first, and other arguments, the latest first. -/
structure Found where
  options : List (String × String) := []
  others : List String := []

namespace Found

/-- The value of an option. -/
def value? (found : Found) (name : String) : Option String :=
  (found.options.find? fun o => o.1 == name).map Prod.snd

/-- Adds an option, which must not be there yet. -/
def addOption (found : Found) (name value : String) : Except UsageError Found :=
  if (found.value? name).isSome then .error (.repeatedOption name)
  else .ok { found with options := (name, value) :: found.options }

/-- Adds an argument that is no option. -/
def addOther (found : Found) (argument : String) : Found :=
  { found with others := argument :: found.others }

end Found

/-- Goes through arguments. With `untilOther`, the first argument that is no option ends the
search and is kept together with what follows it. -/
def scan (known : List String) (untilOther : Bool) (found : Found) :
    List String → Except UsageError (Found × List String)
  | [] => .ok (found, [])
  | argument :: rest =>
    if argument == "--" then
      if untilOther then
        match rest with
        | [] => .ok (found, [])
        | other :: _ => .error (.unexpectedArgument other)
      else .ok (rest.foldl Found.addOther found, [])
    else if isOption argument then
      match splitOption argument with
      | none => .error (.unknownOption argument)
      | some (name, value?) =>
        if known.contains name then
          match value?, rest with
          | some value, rest => do
            let found ← found.addOption name value
            scan known untilOther found rest
          | none, value :: rest =>
            if isOption value then .error (.missingValue name)
            else do
              let found ← found.addOption name value
              scan known untilOther found rest
          | none, [] => .error (.missingValue name)
        else .error (.unknownOption argument)
    else if untilOther then .ok (found, argument :: rest)
    else scan known untilOther (found.addOther argument) rest

/-! ## Values -/

/-- Reads the name of an output format. -/
def OutputFormat.parse (value : String) : Except UsageError OutputFormat :=
  match value with
  | "human" => .ok .human
  | "json" => .ok .json
  | "yaml" => .ok .yaml
  | _ => .error (.badValue "output" value)

/-- Reads the name of a plan format. -/
def PlanFormat.parse (value : String) : Except UsageError PlanFormat :=
  match value with
  | "display" => .ok .display
  | "indent" => .ok .indent
  | "json" => .ok .json
  | _ => .error (.badValue "format" value)

/-- The options that hold for every command. -/
def sharedOptions : List String := ["output", "config", "log-level"]

/-- The command with a name, given what was found after the name. -/
def commandOf (name : String) (found : Found) : Except UsageError Command :=
  match name, found.others with
  | "convert", [file] => do
    let format ← match found.value? "format" with
      | some value => PlanFormat.parse value
      | none => pure .display
    return .convert file format
  | "convert", [] => .error .missingFile
  | "check-config", [] => .ok .checkConfig
  | "convert", other :: _ | "check-config", other :: _ => .error (.unexpectedArgument other)
  | name, _ => .error (.unknownCommand name)

/-- The options a command knows. -/
def optionsOf (name : String) : List String :=
  if name == "convert" then "format" :: sharedOptions else sharedOptions

/-- The configuration file that is read if none is named. -/
def defaultConfigPath : String := "sqlfed.yaml"

/-- Reads all arguments. The configuration file may also be named by a variable. -/
def parse (configVariable : Option String) (arguments : List String) :
    Except UsageError Invocation := do
  match ← scan sharedOptions true {} arguments with
  | (_, []) => throw .missingCommand
  | (outer, name :: rest) =>
    if name != "convert" && name != "check-config" then throw (.unknownCommand name)
    let (inner, _) ← scan (optionsOf name) false {} rest
    let shared (option : String) : Option String := inner.value? option <|> outer.value? option
    let outerOutput ← (outer.value? "output").mapM OutputFormat.parse
    let innerOutput ← (inner.value? "output").mapM OutputFormat.parse
    let command ← commandOf name inner
    return {
      command := command
      output := (innerOutput <|> outerOutput).getD .human
      configPath := (shared "config" <|> configVariable).getD defaultConfigPath
      logLevel := shared "log-level" }

end SqlAlgebra.CommandLine
