import SqlAlgebra.Json.Basic
import SqlAlgebra.Text.Numeral

/-!
# Trees of settings

Settings from several sources are merged into one tree. A setting is addressed by a path of
names and positions in lists; where a path leads through something that is not a group or a
list of settings, an empty one takes its place. A group that is put where there is one already
is merged into it. The names of settings are kept in lower case.
-/

namespace SqlAlgebra.Configuration

/-! ## Groups and lists -/

/-- The fields of a group; anything else has none. -/
def fieldsOf : Json → List (String × Json)
  | .object fields => fields
  | _ => []

/-- The items of a list; anything else has none. -/
def itemsOf : Json → List Json
  | .array items => items
  | _ => []

/-- A name in lower case. -/
def lowerName (name : String) : String := String.ofList (Text.lowered name.toList)

/-- Replaces the value of a field, or adds the field at the end. -/
def replace (name : String) (value : Json) : List (String × Json) → List (String × Json)
  | [] => [(name, value)]
  | (n, v) :: fields =>
    if n == name then (name, value) :: fields else (n, v) :: replace name value fields

mutual

/-- Puts a value into a group under a name. -/
def put (name : String) (value : Json) (group : Json) : Json :=
  match value with
  | .object fields =>
    let target := (group.get? (lowerName name)).getD (.object [])
    .object (replace (lowerName name) (putAll fields target) (fieldsOf group))
  | value => .object (replace (lowerName name) value (fieldsOf group))

/-- Puts fields into a group one by one. -/
def putAll : List (String × Json) → Json → Json
  | [], group => group
  | (name, value) :: fields, group => putAll fields (put name value group)

end

/-- Changes the field of a group under a name; a field that is not there is nothing. -/
def alterField (name : String) (change : Json → Json) (group : Json) : Json :=
  .object (replace name (change ((group.get? name).getD .null)) (fieldsOf group))

/-- Changes the item of a list at a position, counted from the end if it is negative. A list
that is too short is filled up with nothing. -/
def alterItem (index : Int) (change : Json → Json) (list : Json) : Json :=
  let items := itemsOf list
  let position := if index < 0 then items.length - index.natAbs else index.natAbs
  let filled := items ++ List.replicate (position + 1 - items.length) .null
  .array (filled.modify position change)

/-! ## Paths -/

/-- A step of a path. -/
inductive PathStep
  | name (name : String)
  | index (index : Int)
deriving DecidableEq, Repr

/-- Puts a value at the end of a path. The names on the way are taken as they are written. -/
def putAt : List PathStep → Json → Json → Json
  | [], _, tree => tree
  | [.name name], value, tree => put name value tree
  | [.index index], value, tree => alterItem index (fun _ => value) tree
  | .name name :: path, value, tree => alterField name (putAt path value) tree
  | .index index :: path, value, tree => alterItem index (putAt path value) tree

/-- Whether a character may stand in a name of a path. -/
def isNameChar (c : Char) : Bool :=
  c.isAlphanum || c == ' ' || c == '_' || c == '-'

/-- The position in square brackets after the opening one, and the text after them. -/
def readIndex? (cs : List Char) : Option (Int × List Char) := do
  let isSpace (c : Char) : Bool := c == ' ' || c == '\t'
  let (digits, rest) := (cs.dropWhile isSpace).span fun c => c.isDigit || c == '-'
  let index ← Text.signed64? 10 digits
  match rest.dropWhile isSpace with
  | ']' :: rest => some (index, rest)
  | _ => none

/-- The steps of a path after its first name. -/
def readSteps? : Nat → List Char → Option (List PathStep)
  | _, [] => some []
  | 0, _ => none
  | fuel + 1, '.' :: cs =>
    let (name, rest) := cs.span isNameChar
    if name.isEmpty then none
    else (readSteps? fuel rest).map (.name (String.ofList name) :: ·)
  | fuel + 1, '[' :: cs => do
    let (index, rest) ← readIndex? cs
    (readSteps? fuel rest).map (.index index :: ·)
  | _, _ => none

/-- The path a key stands for: names with dots between them and positions in square brackets,
or the key itself if it is not made of such steps. -/
def pathOf (key : String) : List PathStep :=
  let (name, rest) := key.toList.span isNameChar
  match readSteps? rest.length rest with
  | some steps => if name.isEmpty then [.name key] else .name (String.ofList name) :: steps
  | none => [.name key]

/-- Merges keys and their values into a tree, in order. -/
def merge (settings : List (String × Json)) (root : Json) : Json :=
  settings.foldl (fun root s => putAt (pathOf s.1) s.2 root) root

end SqlAlgebra.Configuration
