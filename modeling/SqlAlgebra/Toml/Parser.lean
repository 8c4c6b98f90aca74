import SqlAlgebra.Toml.Scalar
import SqlAlgebra.Toml.Table

/-!
# Reading TOML texts

A text is a sequence of lines: a header in brackets, or a field with its value. `parse` reads
it as a JSON object. Every step uses up a character or a level, so the fuel, twice the length of
the text, does not run out.
-/

namespace SqlAlgebra.Toml

open SqlAlgebra.Text (Reading stuck expect expectWord)

mutual

/-- Reads a value with at most `depth` more levels of lists and tables. -/
def readValue : Nat → Nat → List Char → Reading (Json × List Char)
  | 0, _, cs => .error (stuck cs)
  | fuel + 1, depth, cs =>
    match cs with
    | '"' :: _ | '\'' :: _ => (readString cs).map fun (s, rest) => (.string s, rest)
    | 't' :: _ => (expectWord "true" cs).map fun rest => (.bool true, rest)
    | 'f' :: _ => (expectWord "false" cs).map fun rest => (.bool false, rest)
    | '[' :: rest =>
      match depth with
      | 0 => .error .tooDeep
      | depth + 1 => readItems fuel depth rest []
    | '\x7b' :: rest =>
      match depth with
      | 0 => .error .tooDeep
      | depth + 1 =>
        match skipSpace rest with
        | '\x7d' :: rest => .ok (.object [], rest)
        | rest => readFields fuel depth rest []
    | cs => readScalar cs

/-- Reads the items of a list; `done` holds those read, the latest first. -/
def readItems : Nat → Nat → List Char → List Json → Reading (Json × List Char)
  | 0, _, cs, _ => .error (stuck cs)
  | fuel + 1, depth, cs, done =>
    match skipLines (cs.length + 1) cs with
    | ']' :: rest => .ok (.array done.reverse, rest)
    | rest =>
      match readValue fuel depth rest with
      | .error e => .error e
      | .ok (item, rest) =>
        match skipLines (rest.length + 1) rest with
        | ',' :: rest => readItems fuel depth rest (item :: done)
        | ']' :: rest => .ok (.array (item :: done).reverse, rest)
        | rest => .error (stuck rest)

/-- Reads the fields of a table in curly brackets. -/
def readFields : Nat → Nat → List Char → Fields → Reading (Json × List Char)
  | 0, _, cs, _ => .error (stuck cs)
  | fuel + 1, depth, cs, done =>
    match readPath cs with
    | .error e => .error e
    | .ok ((path, name), rest) =>
      match expect '=' rest with
      | .error e => .error e
      | .ok rest =>
        match readValue fuel depth (skipSpace rest) with
        | .error e => .error e
        | .ok (value, rest) =>
          match define path name value done with
          | .error e => .error e
          | .ok done =>
            match skipSpace rest with
            | ',' :: rest => readFields fuel depth rest done
            | '\x7d' :: rest => .ok (.object (fieldsToJson done), rest)
            | rest => .error (stuck rest)

end

/-- Reads lines; `header` is the path of the table that is open. -/
def readLines : Nat → List String → List Char → Fields → Reading Fields
  | 0, _, cs, _ => .error (stuck cs)
  | fuel + 1, header, cs, root =>
    match skipLines (cs.length + 1) cs with
    | [] => .ok root
    | '[' :: '[' :: rest => do
      let ((path, name), rest) ← readPath rest
      let rest ← endLine (← expect ']' (← expect ']' rest))
      readLines fuel (path ++ [name]) rest (← openElement path name root)
    | '[' :: rest => do
      let ((path, name), rest) ← readPath rest
      let rest ← endLine (← expect ']' rest)
      readLines fuel (path ++ [name]) rest (← openTable path name root)
    | rest => do
      let ((path, name), rest) ← readPath rest
      let rest ← expect '=' rest
      let (value, rest) ← readValue (2 * rest.length + 2) nestingLimit (skipSpace rest)
      let rest ← endLine rest
      readLines fuel header rest (← defineIn header path name value root)

/-- Reads a text; a mark of the byte order in front does not count. -/
def parse (text : String) : Reading Json := do
  let cs := match text.toList with
    | c :: cs => if c.toNat == 0xFEFF then cs else c :: cs
    | [] => []
  return .object (fieldsToJson (← readLines (cs.length + 2) [] cs []))

end SqlAlgebra.Toml
