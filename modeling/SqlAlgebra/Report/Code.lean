/-!
# Error codes

Every error that leaves the compiler carries a stable code. Codes are grouped by whom they
blame: the statement (2000–2999), the configuration (3000–3999), or the compiler itself.
`ErrorCode.parse` reads a code back from its text.
-/

namespace SqlAlgebra

/-- Whom an error blames. -/
inductive ErrorCategory
  | conversion
  | config
  | internal
deriving DecidableEq, Repr, Inhabited

/-- The name of a category. -/
def ErrorCategory.name : ErrorCategory → String
  | conversion => "Conversion"
  | config => "Config"
  | internal => "Internal"

/-- The codes of the errors a session can see. -/
inductive ErrorCode
  | malformedSegment
  | unsupportedOperator
  | emptyClause
  | unsupportedFeature
  | recursionLimit
  | invalidYaml
  | invalidConfig
  | unsupportedSegment
  | converterMismatch
  | serializationFailed
  | internalPanic
  | unknown
deriving DecidableEq, Repr, Inhabited

/-- Why a text or number is no error code. -/
inductive CodeError
  /-- The text is not the letters, a dash and a number of at most 65535. -/
  | invalidFormat
  /-- The text is well formed, but its number is not in use. -/
  | unknownCode
  /-- The number is not in use. -/
  | unknownNumber (number : UInt16)
deriving DecidableEq, Repr

/-- The wording of a failure to read a code. -/
def CodeError.message : CodeError → String
  | invalidFormat => "Invalid format"
  | unknownCode => "Unknown code"
  | unknownNumber n => "Unknown error code: " ++ n.toNat.repr

namespace ErrorCode

/-- Every code, by number. -/
def all : List ErrorCode :=
  [malformedSegment, unsupportedOperator, emptyClause, unsupportedFeature, recursionLimit,
    invalidYaml, invalidConfig, unsupportedSegment, converterMismatch, serializationFailed,
    internalPanic, unknown]

/-- The number of a code. -/
def number : ErrorCode → UInt16
  | malformedSegment => 2001
  | unsupportedOperator => 2002
  | emptyClause => 2003
  | unsupportedFeature => 2004
  | recursionLimit => 2005
  | invalidYaml => 3001
  | invalidConfig => 3002
  | unsupportedSegment => 5001
  | converterMismatch => 5002
  | serializationFailed => 5003
  | internalPanic => 5004
  | unknown => 9999

/-- The name of a code. -/
def name : ErrorCode → String
  | malformedSegment => "MalformedSegment"
  | unsupportedOperator => "UnsupportedOperator"
  | emptyClause => "EmptyClause"
  | unsupportedFeature => "UnsupportedFeature"
  | recursionLimit => "RecursionLimit"
  | invalidYaml => "InvalidYaml"
  | invalidConfig => "InvalidConfig"
  | unsupportedSegment => "UnsupportedSegment"
  | converterMismatch => "ConverterMismatch"
  | serializationFailed => "SerializationFailed"
  | internalPanic => "InternalPanic"
  | unknown => "Unknown"

/-- What stands in front of the number in a code's text. -/
def lead : List Char := "SQLFED-".toList

/-- The text of a code; every number in use has four digits. -/
def text (code : ErrorCode) : String :=
  String.ofList (lead ++ (Nat.repr code.number.toNat).toList)

/-- The category of a code, read off its number. -/
def category (code : ErrorCode) : ErrorCategory :=
  if 2000 ≤ code.number && code.number ≤ 2999 then .conversion
  else if 3000 ≤ code.number && code.number ≤ 3999 then .config
  else .internal

/-- The code with a number. -/
def ofNumber (n : UInt16) : Except CodeError ErrorCode :=
  match all.find? fun code => code.number == n with
  | some code => .ok code
  | none => .error (.unknownNumber n)

/-- What is left of a text after a beginning. -/
def stripStart? : List Char → List Char → Option (List Char)
  | [], cs => some cs
  | _ :: _, [] => none
  | a :: as, c :: cs => if a == c then stripStart? as cs else none

/-- The value of a non-empty run of digits. -/
def digitsValue? (ds : List Char) : Option Nat :=
  if !ds.isEmpty && ds.all Char.isDigit then
    some (ds.foldl (fun n c => n * 10 + (c.toNat - 48)) 0)
  else none

/-- The value of digits with an optional plus sign in front. -/
def unsignedValue? : List Char → Option Nat
  | '+' :: ds => digitsValue? ds
  | ds => digitsValue? ds

/-- The code a text denotes: the letters and dash, an optional plus sign, and digits, leading
zeros allowed, whose value is at most 65535. -/
def parse (text : String) : Except CodeError ErrorCode :=
  match (stripStart? lead text.toList).bind unsignedValue? with
  | none => .error .invalidFormat
  | some n =>
    if n < UInt16.size then
      match ofNumber (UInt16.ofNat n) with
      | .ok code => .ok code
      | .error _ => .error .unknownCode
    else .error .invalidFormat

end ErrorCode

end SqlAlgebra
