import SqlAlgebra.Json.Basic
import SqlAlgebra.Report.Code

/-!
# Error reports

What a session sees of a failure: a stable code, a message, and, where they help, a context
that locates the failure, a hint and the session's trace id. `Report.text` is the report on
one line.
-/

namespace SqlAlgebra

/-- Data by name. No name occurs twice. -/
structure NamedData where
  fields : List (String × Json)
  nodup : (fields.map Prod.fst).Nodup

/-- Fields as data. Of the fields of one name, the last counts. -/
def NamedData.ofFields (fields : List (String × Json)) : NamedData :=
  ⟨Json.lastOfEach fields, Json.nodup_lastOfEach fields⟩

/-- Structured data on where or in what a failure arose. -/
inductive ErrorContext
  /-- A segment of the statement; the path leads from the statement down to it, and is empty
  if it is not known. -/
  | segment (kind : String) (start stop : UInt64) (path : List String)
  /-- An operator without a meaning, and the operators that have one. -/
  | operator (operator expression : String) (supported : List String)
  /-- The nesting limit that was reached. -/
  | recursion (limit : UInt64)
  /-- A configuration file or setting. -/
  | config (filePath field : Option String)
  /-- Anything else, by name. -/
  | generic (data : NamedData)

/-- A failure as sessions see it. -/
structure Report where
  code : ErrorCode
  message : String
  context : Option ErrorContext := none
  hint : Option String := none
  traceId : Option String := none

namespace Report

/-- The category of a report's code. -/
def category (r : Report) : ErrorCategory := r.code.category

/-- Whether a report blames the compiler itself. -/
def isInternal (r : Report) : Bool := r.category == .internal

/-- The kinds from the statement down to the offending segment, if the report knows them. -/
def segmentPath? (r : Report) : Option (List String) :=
  match r.context with
  | some (.segment _ _ _ path) => if path.isEmpty then none else some path
  | _ => none

/-- The inclusive offsets of the offending segment in the source text. -/
def sourceRange? (r : Report) : Option (UInt64 × UInt64) :=
  match r.context with
  | some (.segment _ start stop _) => some (start, stop)
  | _ => none

/-- A report on one line. -/
def text (r : Report) : String :=
  "[" ++ r.code.text ++ "] " ++ r.message ++
    (match r.segmentPath? with
      | some path => " at " ++ " > ".intercalate path
      | none => "") ++
    (match r.hint with
      | some hint => " (Hint: " ++ hint ++ ")"
      | none => "")

/-! ## Failures outside a conversion -/

/-- What to look at when a configuration is refused. -/
def configHint : String :=
  "Check the configuration file and SQLFED__* environment overrides"

/-- A failure to read or write. -/
def ofInputOutput (message : String) : Report := ⟨.internalPanic, message, none, none, none⟩

/-- A failure to read data. -/
def ofData (message : String) : Report := ⟨.serializationFailed, message, none, none, none⟩

/-- A configuration text that is not well formed. -/
def ofConfigText (message : String) : Report := ⟨.invalidYaml, message, none, none, none⟩

/-- A configuration that is refused, because of one of its settings if a field is named. -/
def ofConfig (message : String) (filePath field : Option String) : Report :=
  ⟨.invalidConfig, message, some (.config filePath field), some configHint, none⟩

end Report

end SqlAlgebra
