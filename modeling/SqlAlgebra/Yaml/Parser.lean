import SqlAlgebra.Json.Basic
import SqlAlgebra.Yaml.Layout
import SqlAlgebra.Yaml.Node

/-!
# Reading YAML texts

`parse` reads the document of a text as a JSON value. Names of fields that are numbers or truth
values become texts; other names are refused, and so are numbers that only YAML can write. What
does not fit its tag is nothing.
-/

namespace SqlAlgebra.Yaml

/-- The name of a field as a text. -/
def nameOf : Node → Reading String
  | .text s => .ok s
  | .real s => .ok s
  | .int i => .ok i.repr
  | .bool true => .ok "true"
  | .bool false => .ok "false"
  | _ => .error .badName

mutual

/-- A node as a JSON value. -/
def Node.toJson : Node → Reading Json
  | .null => .ok .null
  | .misfit => .ok .null
  | .bool b => .ok (.bool b)
  | .int i => .ok (.ofInt i)
  | .real s =>
    match Text.float? s.toList with
    | some x => .ok (.number (.float x))
    | none => .error (.badNumber s)
  | .text s => .ok (.string s)
  | .list items => (itemsToJson items).map Json.array
  | .mapping fields => (fieldsToJson fields).map Json.object

/-- The items of a list as JSON values. -/
def itemsToJson : List Node → Reading (List Json)
  | [] => .ok []
  | item :: items =>
    match item.toJson with
    | .error e => .error e
    | .ok json => (itemsToJson items).map (json :: ·)

/-- The fields of a mapping as JSON values. -/
def fieldsToJson : List (Node × Node) → Reading (List (String × Json))
  | [] => .ok []
  | (name, value) :: fields =>
    match nameOf name, value.toJson with
    | .ok name, .ok json => (fieldsToJson fields).map ((name, json) :: ·)
    | .error e, _ => .error e
    | _, .error e => .error e

end

/-- Reads a text; a text without a document is the empty mapping. -/
def parse (text : String) : Reading Json := do
  match ← readDocument? (← tokens text) with
  | some node => node.toJson
  | none => return .object []

end SqlAlgebra.Yaml
