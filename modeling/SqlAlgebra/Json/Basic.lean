/-!
# JSON values

A JSON value as read from a text: objects keep their fields in the order they were written,
repeated names included. Numbers written as whole numbers of at most 64 bits are exact; any
other number is a floating-point number. `Json.depth` bounds recursion over a value.
-/

namespace SqlAlgebra

/-- A JSON number. -/
inductive Number
  | int (value : Int)
  | float (value : Float)

/-- A JSON value. -/
inductive Json
  | null
  | bool (value : Bool)
  | number (value : Number)
  | string (value : String)
  | array (items : List Json)
  | object (fields : List (String × Json))

namespace Json

instance : Inhabited Json := ⟨null⟩

/-- A natural number as a value. -/
def ofNat (n : Nat) : Json := .number (.int n)

/-- A whole number as a value. -/
def ofInt (n : Int) : Json := .number (.int n)

/-- The value of an optional part: absence is `null`. -/
def ofOption (f : α → Json) : Option α → Json
  | none => .null
  | some a => f a

/-- The value of a list. -/
def ofList (f : α → Json) (items : List α) : Json :=
  .array (items.map f)

/-- The array of some texts. -/
def ofStrings (texts : List String) : Json := ofList .string texts

/-- The value of the first field with a name. -/
def get? (name : String) : Json → Option Json
  | .object fields => (fields.find? fun f => f.1 == name).map Prod.snd
  | _ => none

/-- The last of the fields of each name. -/
def lastOfEach : List (String × Json) → List (String × Json)
  | [] => []
  | f :: fields =>
    if f.1 ∈ fields.map Prod.fst then lastOfEach fields else f :: lastOfEach fields

theorem lastOfEach_sublist : ∀ fields, List.Sublist (lastOfEach fields) fields
  | [] => .slnil
  | f :: fields => by
    rw [lastOfEach]
    split
    · exact (lastOfEach_sublist fields).cons f
    · exact (lastOfEach_sublist fields).cons_cons f

/-- No name is left twice. -/
theorem nodup_lastOfEach : ∀ fields, ((lastOfEach fields).map Prod.fst).Nodup
  | [] => .nil
  | f :: fields => by
    rw [lastOfEach]
    split
    · exact nodup_lastOfEach fields
    · rename_i hnew
      exact List.nodup_cons.2
        ⟨fun h => hnew (((lastOfEach_sublist fields).map Prod.fst).subset h),
          nodup_lastOfEach fields⟩

mutual

/-- The number of levels of a value; a value without parts has one. -/
def depth : Json → Nat
  | .array items => depthItems items + 1
  | .object fields => depthFields fields + 1
  | _ => 1

/-- The greatest depth among some values. -/
def depthItems : List Json → Nat
  | [] => 0
  | item :: items => max item.depth (depthItems items)

/-- The greatest depth among some fields' values. -/
def depthFields : List (String × Json) → Nat
  | [] => 0
  | (_, value) :: fields => max value.depth (depthFields fields)

end

/-- Puts a field at its place in fields sorted by name, in place of one of the same name. -/
def insertField (name : String) (value : Json) : List (String × Json) → List (String × Json)
  | [] => [(name, value)]
  | (n, v) :: fields =>
    if name < n then (name, value) :: (n, v) :: fields
    else if name == n then (name, value) :: fields
    else (n, v) :: insertField name value fields

mutual

/-- The value with the fields of every object sorted by name, the last of each name kept. -/
def sorted : Json → Json
  | .array items => .array (sortedItems items)
  | .object fields => .object (sortedFields fields [])
  | json => json

/-- `sorted` on each of some values. -/
def sortedItems : List Json → List Json
  | [] => []
  | item :: items => item.sorted :: sortedItems items

/-- Inserts fields one by one into fields already sorted. -/
def sortedFields : List (String × Json) → List (String × Json) → List (String × Json)
  | [], done => done
  | (name, value) :: fields, done => sortedFields fields (insertField name value.sorted done)

end

end Json

end SqlAlgebra
