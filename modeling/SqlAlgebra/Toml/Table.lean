import SqlAlgebra.Json.Basic
import SqlAlgebra.Text.Reading

/-!
# Tables of TOML

Tables are defined piece by piece: a header opens a table or an element of a list of tables,
and fields with dotted names open tables on the way. A table may be defined once only, so an
`Item` remembers how it came about: a table that only stands on the way to others may still be
opened by a header, one that dotted names opened takes only more dotted names.
-/

namespace SqlAlgebra.Toml

open SqlAlgebra.Text (Reading)

/-- What a name stands for. -/
inductive Item
  /-- A value, which is closed. -/
  | value (json : Json)
  /-- A table; it may stand only on the way to others, and dotted names may have opened it. -/
  | table (isOnWay isDotted : Bool) (fields : List (String × Item))
  /-- A list of tables that headers open. -/
  | tables (items : List (List (String × Item)))

/-- The names of a table and what they stand for. -/
abbrev Fields := List (String × Item)

/-- Puts something else in the place of what a name stands for. -/
def replaceItem (name : String) (item : Item) : Fields → Fields
  | [] => []
  | (n, i) :: fields =>
    if n == name then (name, item) :: fields else (n, i) :: replaceItem name item fields

/-- Changes the table at the end of a path; the change is told whether dotted names opened the
table. Tables on the way are opened where there are none; in a list of tables the way goes
through the last. -/
def alter (isDotted : Bool) (change : Bool → Fields → Reading Fields) :
    List String → Bool → Fields → Reading Fields
  | [], here, fields => change here fields
  | name :: path, _, fields =>
    match fields.lookup name with
    | none => do
      let inner ← alter isDotted change path isDotted []
      return fields ++ [(name, .table true isDotted inner)]
    | some (.value _) => .error (.repeatedName name)
    | some (.tables items) => do
      let last ← alter isDotted change path false (items.getLastD [])
      return replaceItem name (.tables (items.dropLast ++ [last])) fields
    | some (.table isOnWay wasDotted inner) =>
      if isDotted && !isOnWay then .error (.repeatedName name)
      else do
        let inner ← alter isDotted change path wasDotted inner
        return replaceItem name (.table isOnWay wasDotted inner) fields

/-- Defines a field of a table under a dotted name. -/
def define (path : List String) (name : String) (json : Json) (fields : Fields) :
    Reading Fields :=
  let change (isDotted : Bool) (fields : Fields) : Reading Fields :=
    if isDotted == path.isEmpty || (fields.lookup name).isSome then .error (.repeatedName name)
    else .ok (fields ++ [(name, .value json)])
  alter true change path false fields

/-- Opens a table by a header. -/
def openTable (path : List String) (name : String) (root : Fields) : Reading Fields :=
  let change (_ : Bool) (fields : Fields) : Reading Fields :=
    match fields.lookup name with
    | none => .ok (fields ++ [(name, .table false false [])])
    | some (.table true false inner) => .ok (replaceItem name (.table false false inner) fields)
    | some _ => .error (.repeatedName name)
  alter false change path false root

/-- Opens an element of a list of tables by a header. -/
def openElement (path : List String) (name : String) (root : Fields) : Reading Fields :=
  let change (_ : Bool) (fields : Fields) : Reading Fields :=
    match fields.lookup name with
    | none => .ok (fields ++ [(name, .tables [[]])])
    | some (.tables items) => .ok (replaceItem name (.tables (items ++ [[]])) fields)
    | some _ => .error (.repeatedName name)
  alter false change path false root

/-- Defines a field of the table that a header opened last. -/
def defineIn (header path : List String) (name : String) (json : Json) (root : Fields) :
    Reading Fields :=
  alter false (fun _ fields => define path name json fields) header false root

mutual

/-- What a name stands for, as a JSON value. -/
def Item.toJson : Item → Json
  | .value json => json
  | .table _ _ fields => .object (fieldsToJson fields)
  | .tables items => .array (tablesToJson items)

/-- A table as the fields of a JSON object. -/
def fieldsToJson : List (String × Item) → List (String × Json)
  | [] => []
  | (name, item) :: fields => (name, item.toJson) :: fieldsToJson fields

/-- A list of tables as JSON values. -/
def tablesToJson : List (List (String × Item)) → List Json
  | [] => []
  | fields :: items => .object (fieldsToJson fields) :: tablesToJson items

end

end SqlAlgebra.Toml
