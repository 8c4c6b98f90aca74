import SqlAlgebra.Json.Basic

/-!
# Settings

What a user can configure: how conversions run and how they are logged. Every setting has a
default. `AppSettings.violations` lists the settings whose value is out of bounds, by the
name of the setting.
-/

namespace SqlAlgebra

/-- How statements are converted. -/
structure CompilerSettings where
  /-- How deeply conversions may nest before a statement is refused. -/
  maxDepth : UInt64 := 128
  /-- Whether an expression without an alias in a select list is given one. -/
  deriveAliases : Bool := true
  /-- What stands in front of the position in a derived alias. -/
  aliasStem : String := "EXPR$"
deriving DecidableEq, Repr, Inhabited

/-- How events are logged. -/
structure LoggingSettings where
  level : String := "info"
  json : Bool := false
deriving DecidableEq, Repr, Inhabited

/-- All settings. -/
structure AppSettings where
  compiler : CompilerSettings := {}
  logging : LoggingSettings := {}
deriving DecidableEq, Repr, Inhabited

/-! ## Bounds -/

/-- A setting whose value is out of bounds. -/
inductive Violation
  /-- The nesting limit is out of range. -/
  | depth (value : UInt64)
  /-- The stem of derived aliases is empty or too long. -/
  | stem (value : String)
  /-- The log level is not a known word. -/
  | level (value : String)
deriving DecidableEq, Repr

namespace Violation

/-- The greatest nesting limit that can be configured. -/
def greatestDepth : UInt64 := 4096

/-- The greatest number of characters in the stem of derived aliases. -/
def greatestStem : Nat := 32

/-- The words for log levels. -/
def levels : List String := ["trace", "debug", "info", "warn", "error", "off"]

/-- Whether a text is a log level, whatever the case of its letters. -/
def isLevel (text : String) : Bool :=
  levels.contains (String.ofList (text.toList.map Char.toLower))

/-- The name of the setting. -/
def field : Violation → String
  | depth _ => "compiler.max_depth"
  | stem _ => "compiler.anonymous_alias_prefix"
  | level _ => "logging.level"

/-- The word for the bound that is violated. -/
def code : Violation → String
  | depth _ => "range"
  | stem _ => "length"
  | level _ => "invalid_log_level"

/-- The offending value and the bounds. -/
def params : Violation → List (String × Json)
  | depth value =>
    [("min", .ofNat 1), ("max", .ofNat greatestDepth.toNat), ("value", .ofNat value.toNat)]
  | stem value =>
    [("min", .ofNat 1), ("max", .ofNat greatestStem), ("value", .string value)]
  | level value => [("value", .string value)]

end Violation

/-- The violations of the settings for conversions. -/
def CompilerSettings.violations (s : CompilerSettings) : List Violation :=
  (if 1 ≤ s.aliasStem.length && s.aliasStem.length ≤ Violation.greatestStem then []
    else [.stem s.aliasStem]) ++
  (if 1 ≤ s.maxDepth && s.maxDepth ≤ Violation.greatestDepth then [] else [.depth s.maxDepth])

/-- The violations of the settings for logging. -/
def LoggingSettings.violations (s : LoggingSettings) : List Violation :=
  if Violation.isLevel s.level then [] else [.level s.level]

/-- The violations of all settings, ordered by the name of the setting. -/
def AppSettings.violations (s : AppSettings) : List Violation :=
  s.compiler.violations ++ s.logging.violations

end SqlAlgebra
