import SqlAlgebra.Operator.Table
import SqlAlgebra.Plan.Basic
import SqlAlgebra.Report.Basic
import SqlAlgebra.Segment.Basic
import SqlAlgebra.Text.EditDistance

/-!
# Why a conversion fails

Every failure of a conversion is a cause with the data that explain it; the wording is in
`ConvertError.message`, and `ConvertError.toReport` turns a cause into what a session sees.
A fatal cause means that the converters do not fit the segments: it is never the fault of
the statement alone.
-/

namespace SqlAlgebra

/-- The clauses that must not convert to nothing. -/
inductive Clause
  | source
  | condition
  | groupBy
  | having
  | selectList
  | orderBy
  | combine
  | joinCondition
  | target
  | assignments
  | statement
deriving DecidableEq, Repr

/-- The words for a clause. -/
def Clause.name : Clause → String
  | source => "FROM"
  | condition => "WHERE"
  | groupBy => "GROUP BY"
  | having => "HAVING"
  | selectList => "SELECT"
  | orderBy => "ORDER BY"
  | combine => "COMBINE"
  | joinCondition => "ON"
  | target => "TABLE"
  | assignments => "SET"
  | statement => "STATEMENT"

/-- How a segment breaks the contract of its kind. -/
inductive Defect
  | branchCount (whens thens : Nat)
  | argumentCount (operator : Operator) (actual : Nat)
  | missingArgument (operator : Operator)
  | twoJoinConditions
  | naturalJoinCondition
  | crossJoinCondition
  | emptyJoinOperand
  | ordinalRange (value : UInt64)
  | pageRange (value : UInt64)
  | insertSources
  | columnsBeforeSet
  | rowWidth (actual expected : Nat)
deriving DecidableEq, Repr

/-- The wording of a defect. -/
def Defect.message : Defect → String
  | branchCount whens thens =>
    whens.repr ++ " WHEN branch(es) with " ++ thens.repr ++ " THEN result(s)"
  | argumentCount operator actual =>
    operator.name ++ " expects " ++ operator.arity.text ++ " argument(s), got " ++ actual.repr
  | missingArgument operator => operator.name ++ " requires an argument"
  | twoJoinConditions => "join has both ON and USING"
  | naturalJoinCondition => "NATURAL join cannot carry a join condition"
  | crossJoinCondition => "cross join cannot carry a join condition"
  | emptyJoinOperand => "join operand produced no relation"
  | ordinalRange value => "ordinal " ++ value.toNat.repr ++ " is out of range"
  | pageRange value => "pagination value " ++ value.toNat.repr ++ " is out of range"
  | insertSources => "expected exactly one of VALUES, SET or SELECT"
  | columnsBeforeSet => "SET assignments cannot follow a column list"
  | rowWidth actual expected =>
    "VALUES row has " ++ actual.repr ++ " value(s), expected " ++ expected.repr

/-- What the algebra has no form for. -/
inductive Feature
  /-- A modification in an order or up to a number of rows. -/
  | orderedModification (modification : Modification)
  /-- An assignment to other than one column. -/
  | columnsAssigned (count : Nat)
deriving DecidableEq, Repr

/-- The wording of a feature. -/
def Feature.text : Feature → String
  | orderedModification modification => modification.name ++ " with ORDER BY or LIMIT"
  | columnsAssigned count => "assignment to " ++ count.repr ++ " columns at once"

/-- Why a conversion fails. -/
inductive ConvertError
  /-- No converter is registered for a segment; the path leads from the root to it. -/
  | unsupportedSegment (kind : SegmentKind) (span : Span) (path : List SegmentKind)
  /-- A converter was handed a segment of another kind than its own. -/
  | converterMismatch (expected actual : SegmentKind)
  /-- An operator text has no meaning; the kinds are those of its operands. -/
  | unsupportedOperator (operator : String) (left right : SegmentKind) (span : Span)
  | malformedSegment (kind : SegmentKind) (defect : Defect) (span : Span)
  /-- A clause is present, but converts to nothing. -/
  | emptyClause (clause : Clause) (span : Span)
  | unsupportedFeature (feature : Feature) (span : Span)
  /-- Conversions nest more deeply than the limit. -/
  | maxRecursion (limit : UInt64)
  /-- A converter built a call with a wrong number of operands. -/
  | invalidArity (error : ArityError)
deriving DecidableEq, Repr

namespace ConvertError

/-- The form of an expression around an operator, as messages show it. -/
def expressionText (operator : String) (left right : SegmentKind) : String :=
  left.name ++ " " ++ operator ++ " " ++ right.name

/-- The wording of a cause. -/
def message : ConvertError → String
  | unsupportedSegment kind span path =>
    "No converter registered for segment kind " ++ kind.name ++ " at " ++ span.text ++
      " (path: " ++ SegmentKind.pathText path ++ ")"
  | converterMismatch expected actual =>
    "Converter for " ++ expected.name ++ " was dispatched a " ++ actual.name ++ " segment"
  | unsupportedOperator operator left right span =>
    "Unsupported operator '" ++ operator ++ "' in " ++ expressionText operator left right ++
      " at " ++ span.text
  | malformedSegment kind defect span =>
    "Malformed " ++ kind.name ++ " segment at " ++ span.text ++ ": " ++ defect.message
  | emptyClause clause span =>
    clause.name ++ " clause at " ++ span.text ++ " produced no relational node"
  | unsupportedFeature feature span =>
    "Unsupported feature at " ++ span.text ++ ": " ++ feature.text
  | maxRecursion limit => "Maximum recursion depth (" ++ limit.toNat.repr ++ ") exceeded"
  | invalidArity error => "Converter produced an invalid call: " ++ error.message

/-- Whether a cause means that the converters do not fit the segments. -/
def isFatal : ConvertError → Bool
  | unsupportedSegment .. | converterMismatch .. | invalidArity _ => true
  | _ => false

/-- What to write in place of an operator without a meaning: the nearest spelling that has
one. -/
def operatorHint (operator : String) (supported : List String) : String :=
  match Text.closest? operator supported with
  | some candidate => "Did you mean '" ++ candidate ++ "'?"
  | none => "Rewrite the predicate using a supported operator"

/-- The context of a failure in a named part of the statement. -/
def located (kind : String) (span : Span) (path : List String) : Option ErrorContext :=
  some (.segment kind span.start span.stop path)

/-- The report of a cause. -/
def toReport : ConvertError → Report
  | unsupportedSegment kind span path =>
    { code := .unsupportedSegment
      message := "No converter registered for segment kind '" ++ kind.name ++ "' at " ++
        span.text
      context := located kind.name span (path.map SegmentKind.name)
      hint := some ("The converter registry is out of sync with the segment model; " ++
        "register a converter for this kind") }
  | converterMismatch expected actual =>
    { code := .converterMismatch
      message := "Converter for '" ++ expected.name ++ "' was dispatched a '" ++ actual.name ++
        "' segment"
      hint := some "Check the registry wiring for this segment kind" }
  | unsupportedOperator operator left right _ =>
    let supported := OperatorTable.standard.binarySpellings
    { code := .unsupportedOperator
      message := "Operator '" ++ operator ++ "' has no relational mapping"
      context := some (.operator operator (expressionText operator left right) supported)
      hint := some (operatorHint operator supported) }
  | malformedSegment kind defect span =>
    { code := .malformedSegment
      message := "Malformed " ++ kind.name ++ " segment: " ++ defect.message
      context := located kind.name span []
      hint := some "The parser produced a segment tree that violates its structural contract" }
  | emptyClause clause span =>
    { code := .emptyClause
      message := clause.name ++ " clause produced no relational node"
      context := located clause.name span []
      hint := some "A subquery without projections must still name a table source" }
  | unsupportedFeature feature span =>
    { code := .unsupportedFeature
      message := "Not supported by the federation compiler: " ++ feature.text
      context := located "Statement" span []
      hint := some "Route this statement to a single data source instead of federating it" }
  | maxRecursion limit =>
    { code := .recursionLimit
      message := "Maximum recursion depth (" ++ limit.toNat.repr ++ ") exceeded"
      context := some (.recursion limit)
      hint := some "Flatten nested subqueries or raise compiler.max_depth" }
  | invalidArity error =>
    { code := .internalPanic
      message := error.message
      hint := some "A converter assembled a call with the wrong number of operands" }

end ConvertError

end SqlAlgebra
