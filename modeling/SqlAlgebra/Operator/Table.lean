import SqlAlgebra.Operator.Basic
import SqlAlgebra.Text.Words

/-!
# Operator tables

How operator texts and function names of the source language map to operators. Both are
looked up by normal form, so blanks and the case of ASCII letters do not matter. A binary
operator text without an entry has no meaning; a function name without an entry denotes the
function of that name. Entries are kept sorted by spelling, and a later registration of a
spelling replaces an earlier one.
-/

namespace SqlAlgebra

/-- Spellings with their operators, sorted by spelling. -/
abbrev Spellings := List (String × Operator)

namespace Spellings

/-- Puts an entry at its place, in place of an entry with the same spelling. -/
def insert (spelling : String) (op : Operator) : Spellings → Spellings
  | [] => [(spelling, op)]
  | (s, o) :: rest =>
    if spelling < s then (spelling, op) :: (s, o) :: rest
    else if spelling == s then (spelling, op) :: rest
    else (s, o) :: insert spelling op rest

/-- The operator of a spelling. -/
def find? (spelling : String) : Spellings → Option Operator
  | [] => none
  | (s, o) :: rest => if spelling == s then some o else find? spelling rest

end Spellings

/-- The meaning of binary operator texts and of function names. -/
structure OperatorTable where
  binary : Spellings := []
  functions : Spellings := []

namespace OperatorTable

/-- The table without entries. -/
def empty : OperatorTable := {}

/-- Registers a binary operator text. -/
def withBinary (table : OperatorTable) (text : String) (op : Operator) : OperatorTable :=
  { table with binary := Spellings.insert (Text.normalForm text) op table.binary }

/-- Registers a function name. -/
def withFunction (table : OperatorTable) (name : String) (op : Operator) : OperatorTable :=
  { table with functions := Spellings.insert (Text.normalForm name) op table.functions }

/-- Registers several binary operator texts, in order. -/
def withBinaries (table : OperatorTable) (entries : List (String × Operator)) : OperatorTable :=
  entries.foldl (fun table e => table.withBinary e.1 e.2) table

/-- Registers several function names, in order. -/
def withFunctions (table : OperatorTable) (entries : List (String × Operator)) :
    OperatorTable :=
  entries.foldl (fun table e => table.withFunction e.1 e.2) table

/-- The operator of a binary operator text. -/
def resolveBinary? (table : OperatorTable) (text : String) : Option Operator :=
  Spellings.find? (Text.normalForm text) table.binary

/-- Whether a function name has an entry. -/
def hasFunction (table : OperatorTable) (name : String) : Bool :=
  (Spellings.find? (Text.normalForm name) table.functions).isSome

/-- The operator of a function name. -/
def resolveFunction (table : OperatorTable) (name : String) : Operator :=
  let spelling := Text.normalForm name
  (Spellings.find? spelling table.functions).getD (.function spelling)

/-- The registered binary operator spellings, sorted. -/
def binarySpellings (table : OperatorTable) : List String :=
  table.binary.map Prod.fst

/-- The binary operator texts of the common SQL dialects. -/
def standardBinaries : List (String × Operator) :=
  [("=", .core .equals),
    ("==", .core .equals),
    ("<>", .core .notEquals),
    ("!=", .core .notEquals),
    ("<", .core .lessThan),
    ("<=", .core .lessThanOrEqual),
    (">", .core .greaterThan),
    (">=", .core .greaterThanOrEqual),
    ("<=>", .core .isNotDistinctFrom),
    ("IS NOT DISTINCT FROM", .core .isNotDistinctFrom),
    ("IS DISTINCT FROM", .core .isDistinctFrom),
    ("AND", .core .and),
    ("&&", .core .and),
    ("OR", .core .or),
    ("XOR", .core .xor),
    ("+", .core .plus),
    ("-", .core .minus),
    ("*", .core .multiply),
    ("/", .core .divide),
    ("%", .core .modulo),
    ("MOD", .core .modulo),
    ("||", .core .concat),
    ("LIKE", .core .like),
    ("NOT LIKE", .core .notLike)]

/-- The function names of the common SQL dialects: other names of built-in functions, then
the built-in functions under their own names. -/
def standardFunctions : List (String × Operator) :=
  [("ifnull", .builtin .coalesce),
    ("nvl", .builtin .coalesce),
    ("character_length", .builtin .charLength),
    ("substr", .builtin .substring),
    ("ucase", .builtin .upper),
    ("lcase", .builtin .lower),
    ("ceiling", .builtin .ceil),
    ("now", .builtin .currentTimestamp),
    ("concat", .core .concat),
    ("count", .core .count),
    ("sum", .core .sum),
    ("avg", .core .avg),
    ("min", .core .min),
    ("max", .core .max)] ++
  Builtin.all.map fun f => (f.name, .builtin f)

/-- The table of the common SQL dialects. -/
def standard : OperatorTable :=
  (empty.withBinaries standardBinaries).withFunctions standardFunctions

end OperatorTable

end SqlAlgebra
