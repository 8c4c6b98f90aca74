import SqlAlgebra.Json.Number
import SqlAlgebra.Plan.Basic
import SqlAlgebra.Report.Code
import SqlAlgebra.Text.Quoted

/-!
# Faults in data

Why a JSON value does not describe what was wanted, and how that is worded.
-/

namespace SqlAlgebra.Wire

/-- Why a JSON value is refused. -/
inductive Fault
  /-- A value of one form stands where another form is wanted. -/
  | wrongType (found : Json) (wanted : String)
  /-- A variant without content stands where one with content is wanted. -/
  | contentMissing
  /-- A whole number is out of range. -/
  | outOfRange (value : Int) (wanted : String)
  /-- An object that names a variant has not exactly one field. -/
  | notSingleField
  /-- A record is written as an array of the wrong length. -/
  | wrongLength (length : Nat) (wanted : String)
  | missingField (name : String)
  | duplicateField (name : String)
  | unknownVariant (name : String) (known : List String)
  /-- A call has a number of operands its operator does not accept. -/
  | wrongArity (error : ArityError)
  | badCode (error : CodeError)
  /-- The value nests more deeply than the reader was prepared for. -/
  | tooDeep

/-- What a value is, as messages put it. -/
def described : Json → String
  | .null => "null"
  | .bool true => "boolean `true`"
  | .bool false => "boolean `false`"
  | .number (.int i) => "integer `" ++ i.repr ++ "`"
  | .number (.float x) => "floating point `" ++ Number.floatText x ++ "`"
  | .string s => "string " ++ Text.quoted s
  | .array _ => "sequence"
  | .object _ => "map"

/-- The wording of a set of names. -/
def oneOf : List String → String
  | [] => "there are no variants"
  | [a] => "expected `" ++ a ++ "`"
  | [a, b] => "expected `" ++ a ++ "` or `" ++ b ++ "`"
  | names => "expected one of " ++ ", ".intercalate (names.map fun n => "`" ++ n ++ "`")

/-- The wording of a fault. -/
def Fault.message : Fault → String
  | wrongType found wanted => "invalid type: " ++ described found ++ ", expected " ++ wanted
  | contentMissing => "invalid type: unit variant, expected newtype variant"
  | outOfRange value wanted =>
    "invalid value: integer `" ++ value.repr ++ "`, expected " ++ wanted
  | notSingleField => "invalid value: map, expected map with a single key"
  | wrongLength length wanted => "invalid length " ++ length.repr ++ ", expected " ++ wanted
  | missingField name => "missing field `" ++ name ++ "`"
  | duplicateField name => "duplicate field `" ++ name ++ "`"
  | unknownVariant name known => "unknown variant `" ++ name ++ "`, " ++ oneOf known
  | wrongArity error => error.message
  | badCode error => error.message
  | tooDeep => "value nested too deeply"

end SqlAlgebra.Wire
