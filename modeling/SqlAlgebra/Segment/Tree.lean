import SqlAlgebra.Segment.Basic

/-!
# The segment tree

Expressions, table sources, select lists and SELECT statements nest in one another, so they
are declared together. Around them stand the statements that change data. Four families are
converted piece by piece, each through its own dispatch table: tables, projections,
expressions and statements; a nested SELECT is converted through an entry of its own.
`Segment` is whatever can be handed to a conversion.
-/

namespace SqlAlgebra

mutual

/-- A scalar or predicate expression. -/
inductive Expr
  | column (column : Column)
  | literal (value : Literal) (span : Span)
  /-- A positional marker; the index counts from zero in statement order. -/
  | parameter (index : UInt64) (span : Span)
  /-- The operator is kept as it was written. -/
  | binary (left : Expr) (operator : String) (right : Expr) (span : Span)
  | negation (operand : Expr) (span : Span)
  /-- `left [NOT] IN right`, where the right side is a list or a subquery. -/
  | membership (left right : Expr) (negated : Bool) (span : Span)
  | between (operand low high : Expr) (negated : Bool) (span : Span)
  | list (items : List Expr) (span : Span)
  | function (name : String) (arguments : List Expr) (span : Span)
  | aggregation (call : Aggregation)
  | subquery (query : Subquery)
  | existence (query : Subquery) (negated : Bool) (span : Span)
  /-- The branches of `whens` and `thens` pair up by position. -/
  | caseWhen (operand : Option Expr) (whens thens : List Expr) (otherwise : Option Expr)
      (span : Span)
  /-- Raw text that was not analysed. -/
  | common (text : String) (span : Span)

/-- An aggregate call; no arguments stand for the argument `*`. -/
structure Aggregation where
  function : AggregateFunction
  distinct : Bool
  arguments : List Expr
  span : Span

/-- A parenthesised SELECT inside another statement. -/
structure Subquery where
  select : Select
  span : Span

/-- A SELECT; every clause is optional. -/
structure Select where
  projections : Option SelectList
  source : Option Table
  condition : Option Condition
  groupBy : Option OrderClause
  having : Option Condition
  orderBy : Option OrderClause
  limit : Option Limit
  combine : Option Combine
  span : Span

/-- The select list: `[DISTINCT] p1, p2, ...`. -/
structure SelectList where
  distinct : Bool
  items : List Projection
  span : Span

/-- An item of a select list. -/
inductive Projection
  | column (column : Column) (aliasName : Option String) (span : Span)
  | expression (expr : Expr) (aliasName : Option String) (span : Span)
  | aggregation (call : Aggregation) (aliasName : Option String) (span : Span)
  /-- `*` or `owner.*` -/
  | shorthand (owner : Option String) (span : Span)
  | subquery (query : Subquery) (aliasName : Option String) (span : Span)

/-- A table source. -/
inductive Table
  | simple (table : SimpleTable)
  | join (left right : Table) (type : JoinType) (natural : Bool) (condition : Option Expr)
      (sharedColumns : List Column) (span : Span)
  | subquery (query : Subquery) (aliasName : Option String) (span : Span)
  /-- The targets of a delete from several tables at once. -/
  | deleteMulti (targets : List SimpleTable) (relation : Table) (span : Span)

/-- The condition of a WHERE or HAVING clause. -/
structure Condition where
  expr : Expr
  span : Span

/-- The items of an ORDER BY or GROUP BY clause. -/
structure OrderClause where
  items : List OrderItem
  span : Span

/-- An item of an ORDER BY or GROUP BY clause. -/
inductive OrderItem
  | column (column : Column) (direction : Direction) (nulls : Option NullsOrder) (span : Span)
  | expression (expr : Expr) (direction : Direction) (nulls : Option NullsOrder) (span : Span)
  /-- A position in the select list, counting from one. -/
  | ordinal (index : UInt64) (direction : Direction) (nulls : Option NullsOrder) (span : Span)

/-- `<current select> <combination> <select>`. -/
structure Combine where
  type : CombineType
  query : Subquery
  span : Span

end

/-- `columns = value` in a SET list. -/
structure Assignment where
  columns : List Column
  value : Expr
  span : Span

/-- `SET c1 = v1, (c2, c3) = v2`. -/
structure SetClause where
  assignments : List Assignment
  span : Span

/-- One `VALUES (...)` row. -/
structure ValuesRow where
  values : List Expr
  span : Span

/-- `INSERT INTO table [(columns)] VALUES ... | SET ... | SELECT ...`. -/
structure Insert where
  table : SimpleTable
  columns : List Column
  rows : List ValuesRow
  set : Option SetClause
  query : Option Subquery
  span : Span

/-- `UPDATE table SET ... WHERE ...`. -/
structure Update where
  table : Table
  set : SetClause
  condition : Option Condition
  orderBy : Option OrderClause
  limit : Option Limit
  span : Span

/-- `DELETE FROM table WHERE ...`. -/
structure Delete where
  table : Table
  condition : Option Condition
  orderBy : Option OrderClause
  limit : Option Limit
  span : Span

/-- A whole statement. -/
inductive Statement
  | select (statement : Select)
  | insert (statement : Insert)
  | update (statement : Update)
  | delete (statement : Delete)

/-! ## Kinds and spans -/

namespace Expr

/-- The kind of an expression. -/
def kind : Expr → SegmentKind
  | column _ => .column
  | literal .. => .literal
  | parameter .. => .parameterMarker
  | binary .. => .binaryOperation
  | negation .. => .negation
  | membership .. => .membership
  | between .. => .between
  | list .. => .list
  | function .. => .function
  | aggregation _ => .aggregation
  | subquery _ => .subquery
  | existence .. => .existsSubquery
  | caseWhen .. => .caseWhen
  | common .. => .commonExpression

/-- Where an expression stands. -/
def span : Expr → Span
  | column c => c.span
  | literal _ span => span
  | parameter _ span => span
  | binary _ _ _ span => span
  | negation _ span => span
  | membership _ _ _ span => span
  | between _ _ _ _ span => span
  | list _ span => span
  | function _ _ span => span
  | aggregation call => call.span
  | subquery query => query.span
  | existence _ _ span => span
  | caseWhen _ _ _ _ span => span
  | common _ span => span

/-- Whether an expression is the literal `NULL`. -/
def isNullLiteral : Expr → Bool
  | literal .null _ => true
  | _ => false

end Expr

namespace Table

/-- The kind of a table source. -/
def kind : Table → SegmentKind
  | simple _ => .simpleTable
  | join .. => .joinTable
  | subquery .. => .subqueryTable
  | deleteMulti .. => .deleteMultiTable

/-- Where a table source stands. -/
def span : Table → Span
  | simple t => t.span
  | join _ _ _ _ _ _ span => span
  | subquery _ _ span => span
  | deleteMulti _ _ span => span

/-- The alias of a table source; a join has none of its own. -/
def aliasName : Table → Option String
  | simple t => t.aliasName
  | subquery _ aliasName _ => aliasName
  | _ => none

end Table

namespace Projection

/-- The kind of a select-list item. -/
def kind : Projection → SegmentKind
  | column .. => .columnProjection
  | expression .. => .expressionProjection
  | aggregation .. => .aggregationProjection
  | shorthand .. => .shorthandProjection
  | subquery .. => .subqueryProjection

/-- Where a select-list item stands. -/
def span : Projection → Span
  | column _ _ span => span
  | expression _ _ span => span
  | aggregation _ _ span => span
  | shorthand _ span => span
  | subquery _ _ span => span

/-- The alias written on a select-list item. -/
def aliasName : Projection → Option String
  | column _ aliasName _ => aliasName
  | expression _ aliasName _ => aliasName
  | aggregation _ aliasName _ => aliasName
  | shorthand _ _ => none
  | subquery _ aliasName _ => aliasName

end Projection

namespace OrderItem

/-- The direction of a sort item. -/
def direction : OrderItem → Direction
  | column _ direction _ _ => direction
  | expression _ direction _ _ => direction
  | ordinal _ direction _ _ => direction

/-- Where a sort item puts nulls, if it says so. -/
def nulls : OrderItem → Option NullsOrder
  | column _ _ nulls _ => nulls
  | expression _ _ nulls _ => nulls
  | ordinal _ _ nulls _ => nulls

/-- Where a sort item stands. -/
def span : OrderItem → Span
  | column _ _ _ span => span
  | expression _ _ _ span => span
  | ordinal _ _ _ span => span

end OrderItem

namespace Statement

/-- The kind of a statement. -/
def kind : Statement → SegmentKind
  | select _ => .selectStatement
  | insert _ => .insertStatement
  | update _ => .updateStatement
  | delete _ => .deleteStatement

/-- Where a statement stands. -/
def span : Statement → Span
  | select s => s.span
  | insert s => s.span
  | update s => s.span
  | delete s => s.span

end Statement

/-! ## What a conversion can be asked for -/

/-- A segment of one of the dispatched families, or a nested SELECT. -/
inductive Segment
  | table (table : Table)
  | projection (projection : Projection)
  | expression (expr : Expr)
  | statement (statement : Statement)
  | select (select : Select)

namespace Segment

/-- The kind of a segment; a nested SELECT has the kind of the statement. -/
def kind : Segment → SegmentKind
  | table t => t.kind
  | projection p => p.kind
  | expression e => e.kind
  | statement s => s.kind
  | select _ => .selectStatement

/-- Where a segment stands. -/
def span : Segment → Span
  | table t => t.span
  | projection p => p.span
  | expression e => e.span
  | statement s => s.span
  | select s => s.span

end Segment

end SqlAlgebra
