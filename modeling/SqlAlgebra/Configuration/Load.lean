import SqlAlgebra.Configuration.Lenient
import SqlAlgebra.Configuration.Tree
import SqlAlgebra.Ini.Parser
import SqlAlgebra.Json.Parser
import SqlAlgebra.Json5.Parser
import SqlAlgebra.Report.Basic
import SqlAlgebra.Ron.Parser
import SqlAlgebra.Toml.Parser
import SqlAlgebra.Yaml.Parser

/-!
# Loading settings

Settings come from an optional file and from environment variables, which win over the file.
The format of a file goes by the extension of its name. What is left out has its default.
Loading fails if the file cannot be read as a group of settings, if a setting is of the wrong
sort, or if it is out of bounds.
-/

namespace SqlAlgebra.Configuration

/-! ## Files -/

/-- The formats of configuration files. -/
inductive Format
  | toml
  | json
  | yaml
  | ini
  | ron
  | json5
deriving DecidableEq, Repr

/-- The extensions of file names and the formats they stand for. -/
def Format.byExtension : List (String × Format) :=
  [("toml", .toml), ("json", .json), ("yaml", .yaml), ("yml", .yaml), ("ini", .ini),
    ("ron", .ron), ("json5", .json5)]

/-- The extension of a file name: what stands after the last dot of its last part, unless that
dot is the first character. -/
def extension (path : String) : String :=
  let name := (path.toList.reverse.takeWhile (· != '/')).reverse
  let after := (name.reverse.takeWhile (· != '.')).reverse
  if after.length + 1 < name.length then String.ofList after else ""

/-- The format of a file. -/
def Format.ofPath? (path : String) : Option Format := byExtension.lookup (extension path)

/-- What stands at a path. -/
inductive Entry
  | missing
  | directory
  | file (text : String)
deriving DecidableEq, Repr, Inhabited

/-- Whether there is something at a path. -/
def Entry.exists : Entry → Bool
  | missing => false
  | _ => true

/-! ## Failures -/

/-- Why settings cannot be loaded. -/
inductive LoadError
  /-- A name does not belong to a file that can be read. -/
  | unreadable (path : String)
  /-- A file is not well formed. -/
  | malformed (path message : String)
  /-- A file does not hold a group of settings. -/
  | notAGroup (path : String)
  /-- A setting is of the wrong sort. -/
  | misfit (misfit : Misfit)
  /-- Settings are out of bounds. -/
  | invalid (violations : List Violation)

/-- The wording of a failure. -/
def LoadError.message : LoadError → String
  | unreadable path =>
    "Failed to build configuration: \"" ++ path ++ "\" is not of a registered file format"
  | malformed path message => "Failed to build configuration: " ++ message ++ " in " ++ path
  | notAGroup path => "Failed to build configuration: no group of settings in " ++ path
  | misfit m =>
    "Failed to deserialize configuration: expected " ++ m.wanted ++ " for key `" ++ m.key ++ "`"
  | invalid violations =>
    "Configuration validation failed: " ++
      ", ".intercalate (violations.map fun v => v.field ++ ": " ++ v.code)

/-- The report of a failure to load settings from a path. -/
def LoadError.toReport (path : String) (e : LoadError) : Report :=
  .ofConfig e.message (some path) none

/-! ## Sources -/

mutual

/-- A value whose whole numbers have at most 64 bits with their sign; larger ones are
floating-point numbers. -/
def narrow : Json → Json
  | .number (.int i) =>
    if i ≤ Int64.maxValue.toInt then .number (.int i) else .number (.float (Float.ofInt i))
  | .array items => .array (narrowItems items)
  | .object fields => .object (narrowFields fields)
  | json => json

/-- `narrow` on each of some values. -/
def narrowItems : List Json → List Json
  | [] => []
  | item :: items => narrow item :: narrowItems items

/-- `narrow` on the values of some fields. -/
def narrowFields : List (String × Json) → List (String × Json)
  | [] => []
  | (name, value) :: fields => (name, narrow value) :: narrowFields fields

end

/-- How deeply JSON values may nest. -/
def jsonDepth : Nat := 127

/-- The value that a text in a format stands for, or why there is none. -/
def Format.read (format : Format) (text : String) : Except String Json :=
  match format with
  | .toml => (Toml.parse text).mapError (·.message)
  | .json => ((Json.parseWithin jsonDepth text).mapError (·.message)).map narrow
  | .yaml => (Yaml.parse text).mapError (·.message)
  | .ini => (Ini.parse text).mapError (·.message)
  | .ron => (Ron.parse text).mapError (·.message)
  | .json5 => (Json5.parse text).mapError (·.message)

/-- The settings of a file, sorted by name. The last of several settings with the same name
counts. -/
def fileSettings (path : String) (text : String) : Except LoadError (List (String × Json)) := do
  let some format := Format.ofPath? path | throw (.unreadable path)
  let json ← (format.read text).mapError (.malformed path)
  match json.sorted with
  | .object fields => return fields
  | _ => throw (.notAGroup path)

/-- The settings of what stands at a path. A directory stands for the first file of the same
name with one of the extensions. -/
def settingsAt (entry : String → Entry) (path : String) :
    Except LoadError (List (String × Json)) :=
  match entry path with
  | .missing => .ok []
  | .file text => fileSettings path text
  | .directory =>
    let stem := String.ofList (path.toList.reverse.dropWhile (· == '/')).reverse
    let file? := Format.byExtension.findSome? fun (extension, _) =>
      match entry (stem ++ "." ++ extension) with
      | .file text => some (stem ++ "." ++ extension, text)
      | _ => none
    match file? with
    | some (path, text) => fileSettings path text
    | none => .error (.unreadable path)

/-- What stands in front of the names of variables that hold settings. -/
def variableStem : List Char := "sqlfed__".toList

/-- Puts a dot in the place of every two underscores. -/
def dotted : List Char → List Char
  | '_' :: '_' :: cs => '.' :: dotted cs
  | c :: cs => c :: dotted cs
  | [] => []

/-- The value that the text of a variable stands for. -/
def variableValue (text : String) : Json :=
  let cs := text.toList
  match String.ofList (Text.lowered cs) with
  | "true" => .bool true
  | "false" => .bool false
  | _ =>
    match Text.signed64? 10 cs with
    | some i => .ofInt i
    | none =>
      match Text.float? cs with
      | some x => .number (.float x)
      | none => .string text

/-- The setting that a variable holds, if it holds one. -/
def variableSetting? (entry : String × String) : Option (String × Json) :=
  let name := Text.lowered entry.1.toList
  if variableStem.isPrefixOf name then
    some (String.ofList (dotted (name.drop variableStem.length)), variableValue entry.2)
  else none

/-! ## Loading -/

/-- Settings from what stands at a path and from environment variables. -/
def load (entry : String → Entry) (path : String) (environment : List (String × String)) :
    Except LoadError AppSettings := do
  let fromFile ← settingsAt entry path
  let root := merge (environment.filterMap variableSetting?) (merge fromFile (.object []))
  let settings ← (appSettings root).mapError .misfit
  if settings.violations.isEmpty then return settings
  else throw (.invalid settings.violations)

end SqlAlgebra.Configuration
