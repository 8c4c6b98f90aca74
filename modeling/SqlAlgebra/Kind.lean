/-!
# Segment kinds

The tag that names every form of segment. Converters are registered against kinds, and
diagnostics report them. `SegmentKind.all` lists the kinds in their declared order, which
is also the order in which listings show them.
-/

namespace SqlAlgebra

/-- The forms a segment of a parsed statement can take. -/
inductive SegmentKind
  | selectStatement
  | insertStatement
  | updateStatement
  | deleteStatement
  | simpleTable
  | joinTable
  | subqueryTable
  | deleteMultiTable
  | columnProjection
  | expressionProjection
  | aggregationProjection
  | shorthandProjection
  | subqueryProjection
  | column
  | literal
  | parameterMarker
  | binaryOperation
  | negation
  | membership
  | between
  | list
  | function
  | aggregation
  | subquery
  | existsSubquery
  | caseWhen
  | commonExpression
  | projections
  | whereClause
  | groupBy
  | having
  | orderBy
  | orderByItem
  | limit
  | combine
  | setAssignment
deriving DecidableEq, Repr, Inhabited

namespace SegmentKind

/-- The name of a kind, as it is written in data and in diagnostics. -/
def name : SegmentKind → String
  | selectStatement => "SelectStatement"
  | insertStatement => "InsertStatement"
  | updateStatement => "UpdateStatement"
  | deleteStatement => "DeleteStatement"
  | simpleTable => "SimpleTable"
  | joinTable => "JoinTable"
  | subqueryTable => "SubqueryTable"
  | deleteMultiTable => "DeleteMultiTable"
  | columnProjection => "ColumnProjection"
  | expressionProjection => "ExpressionProjection"
  | aggregationProjection => "AggregationProjection"
  | shorthandProjection => "ShorthandProjection"
  | subqueryProjection => "SubqueryProjection"
  | column => "Column"
  | literal => "Literal"
  | parameterMarker => "ParameterMarker"
  | binaryOperation => "BinaryOperation"
  | negation => "Not"
  | membership => "In"
  | between => "Between"
  | list => "List"
  | function => "Function"
  | aggregation => "Aggregation"
  | subquery => "Subquery"
  | existsSubquery => "ExistsSubquery"
  | caseWhen => "CaseWhen"
  | commonExpression => "CommonExpression"
  | projections => "Projections"
  | whereClause => "Where"
  | groupBy => "GroupBy"
  | having => "Having"
  | orderBy => "OrderBy"
  | orderByItem => "OrderByItem"
  | limit => "Limit"
  | combine => "Combine"
  | setAssignment => "SetAssignment"

/-- Every kind, in declared order. -/
def all : List SegmentKind :=
  [selectStatement, insertStatement, updateStatement, deleteStatement,
    simpleTable, joinTable, subqueryTable, deleteMultiTable,
    columnProjection, expressionProjection, aggregationProjection, shorthandProjection,
    subqueryProjection,
    column, literal, parameterMarker, binaryOperation, negation, membership, between, list,
    function, aggregation, subquery, existsSubquery, caseWhen, commonExpression,
    projections, whereClause, groupBy, having, orderBy, orderByItem, limit, combine,
    setAssignment]

theorem mem_all (k : SegmentKind) : k ∈ all := by
  cases k <;> decide

/-- Kinds from the root of a statement down to a segment, as diagnostics show them. -/
def pathText (path : List SegmentKind) : String :=
  " > ".intercalate (path.map name)

end SegmentKind

end SqlAlgebra
