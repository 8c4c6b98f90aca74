import SqlAlgebra.Settings
import SqlAlgebra.Wire.Reader

/-!
# Settings as JSON

How settings are read from JSON. Every field may be left out and then has its default.
-/

namespace SqlAlgebra.Wire

/-- Reads the settings for conversions. -/
def compilerSettings : Reader CompilerSettings :=
  record "struct CompilerConfig" 3 fun p =>
    CompilerSettings.mk <$> p.withDefault 0 "max_depth" size ({} : CompilerSettings).maxDepth
      <*> p.withDefault 1 "derive_anonymous_aliases" flag ({} : CompilerSettings).deriveAliases
      <*> p.withDefault 2 "anonymous_alias_prefix" text ({} : CompilerSettings).aliasStem

/-- Reads the settings for logging. -/
def loggingSettings : Reader LoggingSettings :=
  record "struct LoggingConfig" 2 fun p =>
    LoggingSettings.mk <$> p.withDefault 0 "level" text ({} : LoggingSettings).level
      <*> p.withDefault 1 "json" flag ({} : LoggingSettings).json

/-- Reads all settings. -/
def appSettings : Reader AppSettings :=
  record "struct AppConfig" 2 fun p =>
    AppSettings.mk <$> p.withDefault 0 "compiler" compilerSettings {}
      <*> p.withDefault 1 "logging" loggingSettings {}

end SqlAlgebra.Wire
