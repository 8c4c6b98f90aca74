import SqlAlgebra.Report.Basic
import SqlAlgebra.Wire.Segment

/-!
# Reports as JSON

How reports are written as JSON, and read back. Absent parts of a report are left out; the
optional parts of a context are written as `null`.
-/

namespace SqlAlgebra

namespace Wire

/-- Reads a code from its text. -/
def errorCode : Reader ErrorCode := fun inner json =>
  match text inner json with
  | .error e => .error e
  | .ok t =>
    match ErrorCode.parse t with
    | .ok code => .ok code
    | .error e => .error (.badCode e)

/-- Reads data of any form: all fields, each as it is, the last one of each name. -/
def anyFields : Reader NamedData
  | _, .object fields => .ok (.ofFields fields)
  | _, json => .error (.wrongType json "struct variant ErrorContext::Generic")

/-- Reads a context. -/
def errorContext : Reader ErrorContext :=
  tagged "type" "internally tagged enum ErrorContext"
    [("segment", record "struct variant ErrorContext::Segment" 4 fun p =>
        ErrorContext.segment <$> p.required 0 "kind" text
          <*> p.required 1 "start" size
          <*> p.required 2 "stop" size
          <*> p.required 3 "path" (listOf text)),
      ("operator", record "struct variant ErrorContext::Operator" 3 fun p =>
        ErrorContext.operator <$> p.required 0 "operator" text
          <*> p.required 1 "expression" text
          <*> p.required 2 "supported" (listOf text)),
      ("recursion", record "struct variant ErrorContext::Recursion" 1 fun p =>
        ErrorContext.recursion <$> p.required 0 "limit" size),
      ("config", record "struct variant ErrorContext::Config" 2 fun p =>
        ErrorContext.config <$> p.nullable 0 "file_path" text <*> p.nullable 1 "field" text),
      ("generic", fun inner json => (anyFields inner json).map .generic)]

/-- Reads a report. -/
def report : Reader Report :=
  record "struct SqlFedError" 5 fun p =>
    Report.mk <$> p.required 0 "code" errorCode
      <*> p.required 1 "message" text
      <*> p.nullable 2 "context" errorContext
      <*> p.nullable 3 "hint" text
      <*> p.nullable 4 "trace_id" text

end Wire

/-- A context as JSON. -/
def ErrorContext.toJson : ErrorContext → Json
  | segment kind start stop path =>
    .object [("type", .string "segment"), ("kind", .string kind), ("start", .ofNat start.toNat),
      ("stop", .ofNat stop.toNat), ("path", .ofStrings path)]
  | operator op expression supported =>
    .object [("type", .string "operator"), ("operator", .string op),
      ("expression", .string expression), ("supported", .ofStrings supported)]
  | recursion limit =>
    .object [("type", .string "recursion"), ("limit", .ofNat limit.toNat)]
  | config filePath field =>
    .object [("type", .string "config"), ("file_path", .ofText? filePath),
      ("field", .ofText? field)]
  | generic data => .object (("type", .string "generic") :: data.fields)

/-- The fields of a report. -/
def Report.fields (r : Report) : List (String × Json) :=
  [("code", .string r.code.text), ("message", .string r.message)] ++
    r.context.toList.map (fun c => ("context", c.toJson)) ++
    r.hint.toList.map (fun h => ("hint", .string h)) ++
    r.traceId.toList.map (fun t => ("trace_id", .string t))

/-- A report as JSON. -/
def Report.toJson (r : Report) : Json := .object r.fields

end SqlAlgebra
