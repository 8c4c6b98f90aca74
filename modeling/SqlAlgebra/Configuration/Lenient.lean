import SqlAlgebra.Settings
import SqlAlgebra.Text.Numeral

/-!
# Reading settings leniently

Settings from files and from the environment are converted where a conversion makes sense: a
text may stand for a number or a truth value, and a number or truth value for a text. A group
of settings may also be given as a list, in declared order. Nothing and groups never stand
for a single value.
-/

namespace SqlAlgebra.Configuration

/-- The settings that cannot be read: where, and what was wanted. -/
structure Misfit where
  key : String
  wanted : String
deriving DecidableEq, Repr

/-- The words for yes. -/
def yesWords : List String := ["true", "on", "yes"]

/-- The words for no. -/
def noWords : List String := ["false", "off", "no"]

/-- The truth value of a word, if it is one. -/
def wordFlag? (s : String) : Option Bool :=
  let word := String.ofList (Text.lowered s.toList)
  if yesWords.contains word then some true
  else if noWords.contains word then some false
  else none

/-- A truth value; numbers other than zero are true. -/
def flag? : Json → Option Bool
  | .bool b => some b
  | .number (.int i) => some (i != 0)
  | .number (.float x) => some (x != 0.0)
  | .string "1" => some true
  | .string "0" => some false
  | .string s => wordFlag? s
  | _ => none

/-- A count; fractions are rounded and numbers out of range cut off. -/
def size? : Json → Option UInt64
  | .bool b => some (if b then 1 else 0)
  | .number (.int i) => if 0 ≤ i && i < UInt64.size then some (UInt64.ofNat i.toNat) else none
  | .number (.float x) => some x.round.toUInt64
  | .string s =>
    match wordFlag? s with
    | some b => some (if b then 1 else 0)
    | none => Text.unsigned64? s.toList
  | _ => none

/-- A text. -/
def text? : Json → Option String
  | .string s => some s
  | .bool true => some "true"
  | .bool false => some "false"
  | .number (.int i) => some i.repr
  | .number (.float x) => some (Text.floatWord x)
  | _ => none

/-- A setting of a group: by its name, or by its position if the group is a list. A setting
that is not there has its default. -/
def setting (group : Json) (index : Nat) (name : String) (read : Json → Except Misfit α)
    (default : α) : Except Misfit α :=
  let value? := match group with
    | .array values => values[index]?
    | group => group.get? name
  match value? with
  | some value => read value
  | none => .ok default

/-- A single value under a key. -/
def single (key wanted : String) (read : Json → Option α) (json : Json) : Except Misfit α :=
  match read json with
  | some a => .ok a
  | none => .error ⟨key, wanted⟩

/-- A group of settings under a key. -/
def group (key : String) (read : Json → Except Misfit α) (json : Json) : Except Misfit α :=
  match json with
  | .object _ | .array _ => read json
  | _ => .error ⟨key, "a group of settings"⟩

/-- The settings for conversions. -/
def compilerSettings (json : Json) : Except Misfit CompilerSettings := do
  let default : CompilerSettings := {}
  let maxDepth ← setting json 0 "max_depth"
    (single "compiler.max_depth" "a count" size?) default.maxDepth
  let deriveAliases ← setting json 1 "derive_anonymous_aliases"
    (single "compiler.derive_anonymous_aliases" "a truth value" flag?) default.deriveAliases
  let aliasStem ← setting json 2 "anonymous_alias_prefix"
    (single "compiler.anonymous_alias_prefix" "a text" text?) default.aliasStem
  return { maxDepth, deriveAliases, aliasStem }

/-- The settings for logging. -/
def loggingSettings (json : Json) : Except Misfit LoggingSettings := do
  let default : LoggingSettings := {}
  let level ← setting json 0 "level" (single "logging.level" "a text" text?) default.level
  let asJson ← setting json 1 "json" (single "logging.json" "a truth value" flag?) default.json
  return { level, json := asJson }

/-- All settings. -/
def appSettings (json : Json) : Except Misfit AppSettings := do
  let compiler ← setting json 0 "compiler" (group "compiler" compilerSettings) {}
  let logging ← setting json 1 "logging" (group "logging" loggingSettings) {}
  return { compiler, logging }

end SqlAlgebra.Configuration
