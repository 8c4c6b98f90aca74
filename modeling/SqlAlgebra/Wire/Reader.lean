import SqlAlgebra.Wire.Fault

/-!
# Readers of JSON values

A reader turns a JSON value into a value of some type, or says why it cannot. Readers are
told whether the value stands inside the body of a tagged value: there a variant may also be
given by its position, and over-long arrays are worded differently.

A record may be written as an object or as an array of its fields in declared order; fields
with a default may be left out. If several fields are at fault, the fault of the field that
comes first in the data is reported, and missing fields only when every present field is in
order; `Draft` keeps the earliest fault.
-/

namespace SqlAlgebra.Wire

/-- A reader of values of a type; the flag says whether the value is inside a tagged one. -/
abbrev Reader (α : Type) := Bool → Json → Except Fault α

/-! ## Simple values -/

/-- Reads a text. -/
def text : Reader String
  | _, .string s => .ok s
  | _, json => .error (.wrongType json "a string")

/-- Reads a truth value. -/
def flag : Reader Bool
  | _, .bool b => .ok b
  | _, json => .error (.wrongType json "a boolean")

/-- Reads a whole number between two bounds. -/
def integerIn (least greatest : Int) (wanted : String) : Reader Int
  | _, .number (.int i) =>
    if least ≤ i && i ≤ greatest then .ok i else .error (.outOfRange i wanted)
  | _, json => .error (.wrongType json wanted)

/-- Reads an unsigned number of 64 bits under a name. -/
def unsigned64 (wanted : String) : Reader UInt64 := fun inner json =>
  (integerIn 0 (UInt64.size - 1) wanted inner json).map fun i => UInt64.ofNat i.toNat

/-- Reads a count or an offset. -/
def size : Reader UInt64 := unsigned64 "usize"

/-- Reads an unsigned number of 64 bits. -/
def word64 : Reader UInt64 := unsigned64 "u64"

/-- Reads an unsigned number of 16 bits. -/
def word16 : Reader UInt16 := fun inner json =>
  (integerIn 0 (UInt16.size - 1) "u16" inner json).map fun i => UInt16.ofNat i.toNat

/-- Reads a signed number of 64 bits. -/
def integer64 : Reader Int64 := fun inner json =>
  (integerIn Int64.minValue.toInt Int64.maxValue.toInt "i64" inner json).map Int64.ofInt

/-- Reads every item of a list, in order. -/
def items (read : Json → Except Fault α) : List Json → Except Fault (List α)
  | [] => .ok []
  | json :: rest =>
    match read json with
    | .error e => .error e
    | .ok a => (items read rest).map (a :: ·)

/-- Reads an array of values. -/
def listOf (read : Reader α) : Reader (List α)
  | inner, .array values => items (read inner) values
  | _, json => .error (.wrongType json "a sequence")

/-- Reads a value that may be absent; `null` is absence. -/
def optional (read : Reader α) : Reader (Option α)
  | _, .null => .ok none
  | inner, json => (read inner json).map some

/-! ## Records -/

/-- Some fields of a record: their value, or the earliest fault and where it stands. -/
inductive Draft (α : Type)
  | read (value : α)
  | fault (position : Nat) (fault : Fault)

namespace Draft

/-- Applies the function of one draft to the value of another, keeping the earlier fault. -/
def ap : Draft (α → β) → Draft α → Draft β
  | read f, read a => read (f a)
  | read _, fault p e => fault p e
  | fault p e, read _ => fault p e
  | fault p e, fault q e' => if q < p then fault q e' else fault p e

instance : Applicative Draft where
  pure := read
  seq f a := ap f (a ())

/-- The outcome of reading all fields. -/
def result : Draft α → Except Fault α
  | read a => .ok a
  | fault _ e => .error e

/-- The draft of one value at a position. -/
def ofExcept (position : Nat) : Except Fault α → Draft α
  | .ok a => read a
  | .error e => fault position e

end Draft

/-- How a record is written: by field names, or by position. -/
inductive Layout
  | named (fields : List (String × Json))
  | listed (values : List Json)

/-- A record about to be read. -/
structure Parts where
  /-- What the record is called in messages. -/
  wanted : String
  /-- How many fields it declares. -/
  count : Nat
  inner : Bool
  layout : Layout

/-- A number of things, the plural being marked by `s`. -/
def counted (n : Nat) (thing : String) : String :=
  n.repr ++ " " ++ thing ++ if n == 1 then "" else "s"

namespace Parts

/-- The values of the fields with a name, with their positions. -/
def occurrences (name : String) : List (String × Json) → Nat → List (Nat × Json)
  | [], _ => []
  | (n, value) :: rest, position =>
    if n == name then (position, value) :: occurrences name rest (position + 1)
    else occurrences name rest (position + 1)

/-- Reads the field with a name that is declared at an index. What a missing field means
depends on whether the record is written by names or by position. -/
def field (parts : Parts) (index : Nat) (name : String) (read : Reader α)
    (unnamed unlisted : Option α) : Draft α :=
  match parts.layout with
  | .named fields =>
    match occurrences name fields 0 with
    | [] =>
      match unnamed with
      | some a => .read a
      | none => .fault (fields.length + index) (.missingField name)
    | [(position, value)] => .ofExcept position (read parts.inner value)
    | (position, value) :: (again, _) :: _ =>
      match read parts.inner value with
      | .ok _ => .fault again (.duplicateField name)
      | .error e => .fault position e
  | .listed values =>
    match values[index]? with
    | some value => .ofExcept index (read parts.inner value)
    | none =>
      match unlisted with
      | some a => .read a
      | none =>
        .fault index (.wrongLength index (parts.wanted ++ " with " ++
          counted parts.count "element"))

/-- A field that must be there. -/
def required (parts : Parts) (index : Nat) (name : String) (read : Reader α) : Draft α :=
  parts.field index name read none none

/-- A field with a default. -/
def withDefault (parts : Parts) (index : Nat) (name : String) (read : Reader α)
    (default : α) : Draft α :=
  parts.field index name read (some default) (some default)

/-- An optional field that a record written by names may leave out. -/
def nullable (parts : Parts) (index : Nat) (name : String) (read : Reader α) :
    Draft (Option α) :=
  parts.field index name (optional read) (some none) none

end Parts

/-- Reads a record with `count` fields. -/
def record (wanted : String) (count : Nat) (fields : Parts → Draft α) : Reader α
  | inner, .object entries => (fields ⟨wanted, count, inner, .named entries⟩).result
  | inner, .array values =>
    match (fields ⟨wanted, count, inner, .listed values⟩).result with
    | .error e => .error e
    | .ok a =>
      if values.length ≤ count then .ok a
      else if inner then
        .error (.wrongLength values.length (counted count "element" ++ " in sequence"))
      else .error (.wrongLength values.length "fewer elements in array")
  | _, json => .error (.wrongType json wanted)

/-! ## Variants -/

/-- The entry with a name. -/
def lookup (name : String) : List (String × α) → Option α
  | [] => none
  | (n, a) :: rest => if n == name then some a else lookup name rest

/-- The entry that a tag selects, by its name or, inside a tagged value, by its position. -/
def selected (cases : List (String × α)) : Reader α
  | _, .string name =>
    match lookup name cases with
    | some a => .ok a
    | none => .error (.unknownVariant name (cases.map Prod.fst))
  | true, .number (.int i) =>
    if i < 0 then .error (.wrongType (.number (.int i)) "variant identifier")
    else
      match cases[i.toNat]? with
      | some (_, a) => .ok a
      | none => .error (.outOfRange i ("variant index 0 <= i < " ++ cases.length.repr))
  | _, json => .error (.wrongType json "variant identifier")

/-- The fields of an object other than those with a name. -/
def without (name : String) (fields : List (String × Json)) : List (String × Json) :=
  fields.filter fun f => f.1 != name

/-- Reads a value whose variant is named by the field `tag`, the other fields being the
variant's content. As an array, the tag comes first and the content after it. -/
def tagged (tag wanted : String) (cases : List (String × Reader α)) : Reader α
  | inner, .object fields =>
    match Parts.occurrences tag fields 0 with
    | [] => .error (.missingField tag)
    | (_, name) :: more =>
      match selected cases inner name with
      | .error e => .error e
      | .ok read =>
        if more.isEmpty then read true (.object (without tag fields))
        else .error (.duplicateField tag)
  | _, .array [] => .error (.missingField tag)
  | inner, .array (name :: content) =>
    match selected cases inner name with
    | .error e => .error e
    | .ok read => read true (.array content)
  | _, json => .error (.wrongType json wanted)

/-- The content of a variant that is given by its name around the content. -/
inductive Content (α : Type)
  | unit (value : α)
  | value (read : Reader α)

/-- Reads the content of a variant without content. Inside a tagged value the empty object
counts as no content too. -/
def noContent : Reader Unit
  | _, .null => .ok ()
  | true, .object [] => .ok ()
  | _, json => .error (.wrongType json "unit")

/-- Reads a value written as the name of a variant, or as an object with the variant's name
as its only field and the content as that field's value. -/
def choice (cases : List (String × Content α)) : Reader α
  | _, .string name =>
    match lookup name cases with
    | some (.unit a) => .ok a
    | some (.value _) => .error .contentMissing
    | none => .error (.unknownVariant name (cases.map Prod.fst))
  | inner, .object [(name, content)] =>
    match lookup name cases with
    | some (.unit a) => (noContent inner content).map fun _ => a
    | some (.value read) => read inner content
    | none => .error (.unknownVariant name (cases.map Prod.fst))
  | _, .object _ => .error .notSingleField
  | _, json => .error (.wrongType json "string or map")

/-- Reads one of some words. -/
def oneWord (words : List α) (name : α → String) : Reader α :=
  choice (words.map fun a => (name a, .unit a))

end SqlAlgebra.Wire
