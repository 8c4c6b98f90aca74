import SqlAlgebra.Segment.Tree
import SqlAlgebra.Wire.Reader

/-!
# Segments as JSON

How statements and their parts are written as JSON, and read back. Expressions, tables,
projections and SELECTs contain one another, so their readers are built level by level:
`readersAt n` reads values of at most `n` levels, and `within` supplies as many levels as a
value has. Every part is written with all its fields, whether they hold their default or
not.
-/

namespace SqlAlgebra

namespace Wire

/-! ## Parts that nest in no others -/

/-- Reads a span. -/
def span : Reader Span :=
  record "struct Span" 2 fun p =>
    Span.mk <$> p.required 0 "start" size <*> p.required 1 "stop" size

/-- Reads a kind. -/
def kind : Reader SegmentKind := oneWord SegmentKind.all SegmentKind.name

/-- Reads a column. -/
def column : Reader Column :=
  record "struct ColumnSegment" 3 fun p =>
    Column.mk <$> p.withDefault 0 "owner" (optional text) none
      <*> p.required 1 "name" text
      <*> p.withDefault 2 "span" span .zero

/-- Reads a literal value. -/
def literal : Reader Literal :=
  choice
    [("Null", .unit .null),
      ("Boolean", .value fun inner json => (flag inner json).map .boolean),
      ("Integer", .value fun inner json => (integer64 inner json).map .integer),
      ("Decimal", .value fun inner json => (text inner json).map .decimal),
      ("String", .value fun inner json => (text inner json).map .string)]

/-- Reads a table given by name. -/
def simpleTable : Reader SimpleTable :=
  record "struct SimpleTableSegment" 4 fun p =>
    SimpleTable.mk <$> p.withDefault 0 "owner" (optional text) none
      <*> p.required 1 "name" text
      <*> p.withDefault 2 "alias" (optional text) none
      <*> p.withDefault 3 "span" span .zero

/-- Reads a join type. -/
def joinType : Reader JoinType := oneWord JoinType.all JoinType.name

/-- Reads an aggregate function. -/
def aggregateFunction : Reader AggregateFunction :=
  oneWord AggregateFunction.all AggregateFunction.name

/-- Reads a direction. -/
def direction : Reader Direction := oneWord Direction.all Direction.name

/-- Reads a placement of nulls. -/
def nullsOrder : Reader NullsOrder := oneWord NullsOrder.all NullsOrder.name

/-- Reads a combination. -/
def combineType : Reader CombineType := oneWord CombineType.all CombineType.name

/-- Reads a paging value. -/
def pageValue : Reader PageValue :=
  tagged "type" "internally tagged enum PaginationValueSegment"
    [("Number", record "struct variant PaginationValueSegment::Number" 2 fun p =>
        PageValue.number <$> p.required 0 "value" word64 <*> p.withDefault 1 "span" span .zero),
      ("Parameter", record "struct variant PaginationValueSegment::Parameter" 2 fun p =>
        PageValue.parameter <$> p.required 0 "index" size
          <*> p.withDefault 1 "span" span .zero)]

/-- Reads a LIMIT clause. -/
def limit : Reader Limit :=
  record "struct LimitSegment" 3 fun p =>
    Limit.mk <$> p.withDefault 0 "offset" (optional pageValue) none
      <*> p.withDefault 1 "row_count" (optional pageValue) none
      <*> p.withDefault 2 "span" span .zero

/-! ## Parts that nest in one another -/

/-- Readers of the parts that contain one another. -/
structure Readers where
  expr : Reader Expr
  table : Reader Table
  projection : Reader Projection
  select : Reader Select

namespace Readers

variable (r : Readers)

/-- Reads a parenthesised SELECT. -/
def subquery : Reader Subquery :=
  record "struct SubquerySegment" 2 fun p =>
    Subquery.mk <$> p.required 0 "select" r.select <*> p.withDefault 1 "span" span .zero

/-- Reads an aggregate call. -/
def aggregation : Reader Aggregation :=
  record "struct AggregationSegment" 4 fun p =>
    Aggregation.mk <$> p.required 0 "aggregation_type" aggregateFunction
      <*> p.withDefault 1 "distinct" flag false
      <*> p.withDefault 2 "parameters" (listOf r.expr) []
      <*> p.withDefault 3 "span" span .zero

/-- Reads a literal expression. -/
def literalExpr : Reader Expr :=
  record "struct LiteralSegment" 2 fun p =>
    Expr.literal <$> p.required 0 "value" literal <*> p.withDefault 1 "span" span .zero

/-- Reads a positional marker. -/
def parameterExpr : Reader Expr :=
  record "struct ParameterMarkerSegment" 2 fun p =>
    Expr.parameter <$> p.required 0 "index" size <*> p.withDefault 1 "span" span .zero

/-- Reads a binary operation. -/
def binaryExpr : Reader Expr :=
  record "struct BinaryOperationSegment" 4 fun p =>
    Expr.binary <$> p.required 0 "left" r.expr
      <*> p.required 1 "operator" text
      <*> p.required 2 "right" r.expr
      <*> p.withDefault 3 "span" span .zero

/-- Reads a negation. -/
def negationExpr : Reader Expr :=
  record "struct NotSegment" 2 fun p =>
    Expr.negation <$> p.required 0 "expr" r.expr <*> p.withDefault 1 "span" span .zero

/-- Reads a membership test. -/
def membershipExpr : Reader Expr :=
  record "struct InSegment" 4 fun p =>
    Expr.membership <$> p.required 0 "left" r.expr
      <*> p.required 1 "right" r.expr
      <*> p.withDefault 2 "not" flag false
      <*> p.withDefault 3 "span" span .zero

/-- Reads a range test. -/
def betweenExpr : Reader Expr :=
  record "struct BetweenSegment" 5 fun p =>
    Expr.between <$> p.required 0 "left" r.expr
      <*> p.required 1 "between" r.expr
      <*> p.required 2 "and" r.expr
      <*> p.withDefault 3 "not" flag false
      <*> p.withDefault 4 "span" span .zero

/-- Reads a list of expressions. -/
def listExpr : Reader Expr :=
  record "struct ListSegment" 2 fun p =>
    Expr.list <$> p.required 0 "items" (listOf r.expr) <*> p.withDefault 1 "span" span .zero

/-- Reads a function call. -/
def functionExpr : Reader Expr :=
  record "struct FunctionSegment" 3 fun p =>
    Expr.function <$> p.required 0 "name" text
      <*> p.withDefault 1 "parameters" (listOf r.expr) []
      <*> p.withDefault 2 "span" span .zero

/-- Reads an existence test. -/
def existenceExpr : Reader Expr :=
  record "struct ExistsSubquerySegment" 3 fun p =>
    Expr.existence <$> p.required 0 "subquery" r.subquery
      <*> p.withDefault 1 "not" flag false
      <*> p.withDefault 2 "span" span .zero

/-- Reads a CASE expression. -/
def caseWhenExpr : Reader Expr :=
  record "struct CaseWhenSegment" 5 fun p =>
    Expr.caseWhen <$> p.withDefault 0 "case_expr" (optional r.expr) none
      <*> p.required 1 "when_exprs" (listOf r.expr)
      <*> p.required 2 "then_exprs" (listOf r.expr)
      <*> p.withDefault 3 "else_expr" (optional r.expr) none
      <*> p.withDefault 4 "span" span .zero

/-- Reads raw expression text. -/
def commonExpr : Reader Expr :=
  record "struct CommonExpressionSegment" 2 fun p =>
    Expr.common <$> p.required 0 "text" text <*> p.withDefault 1 "span" span .zero

/-- Reads an expression. -/
def anyExpr : Reader Expr :=
  tagged "type" "internally tagged enum ExpressionSegment"
    [("Column", fun inner json => (column inner json).map .column),
      ("Literal", literalExpr),
      ("Parameter", parameterExpr),
      ("Binary", r.binaryExpr),
      ("Not", r.negationExpr),
      ("In", r.membershipExpr),
      ("Between", r.betweenExpr),
      ("List", r.listExpr),
      ("Function", r.functionExpr),
      ("Aggregation", fun inner json => (r.aggregation inner json).map .aggregation),
      ("Subquery", fun inner json => (r.subquery inner json).map .subquery),
      ("Exists", r.existenceExpr),
      ("CaseWhen", r.caseWhenExpr),
      ("Common", commonExpr)]

/-- Reads a join. -/
def joinTable : Reader Table :=
  record "struct JoinTableSegment" 7 fun p =>
    Table.join <$> p.required 0 "left" r.table
      <*> p.required 1 "right" r.table
      <*> p.required 2 "join_type" joinType
      <*> p.withDefault 3 "natural" flag false
      <*> p.withDefault 4 "condition" (optional r.expr) none
      <*> p.withDefault 5 "using" (listOf column) []
      <*> p.withDefault 6 "span" span .zero

/-- Reads a derived table. -/
def subqueryTable : Reader Table :=
  record "struct SubqueryTableSegment" 3 fun p =>
    Table.subquery <$> p.required 0 "subquery" r.subquery
      <*> p.withDefault 1 "alias" (optional text) none
      <*> p.withDefault 2 "span" span .zero

/-- Reads the targets of a delete from several tables. -/
def deleteMultiTable : Reader Table :=
  record "struct DeleteMultiTableSegment" 3 fun p =>
    Table.deleteMulti <$> p.required 0 "targets" (listOf simpleTable)
      <*> p.required 1 "relation" r.table
      <*> p.withDefault 2 "span" span .zero

/-- Reads a table source. -/
def anyTable : Reader Table :=
  tagged "type" "internally tagged enum TableSegment"
    [("Simple", fun inner json => (simpleTable inner json).map .simple),
      ("Join", r.joinTable),
      ("Subquery", r.subqueryTable),
      ("DeleteMultiTable", r.deleteMultiTable)]

/-- Reads a column of a select list. -/
def columnProjection : Reader Projection :=
  record "struct ColumnProjectionSegment" 3 fun p =>
    Projection.column <$> p.required 0 "column" column
      <*> p.withDefault 1 "alias" (optional text) none
      <*> p.withDefault 2 "span" span .zero

/-- Reads an expression of a select list. -/
def expressionProjection : Reader Projection :=
  record "struct ExpressionProjectionSegment" 3 fun p =>
    Projection.expression <$> p.required 0 "expr" r.expr
      <*> p.withDefault 1 "alias" (optional text) none
      <*> p.withDefault 2 "span" span .zero

/-- Reads an aggregate call of a select list. -/
def aggregationProjection : Reader Projection :=
  record "struct AggregationProjectionSegment" 3 fun p =>
    Projection.aggregation <$> p.required 0 "aggregation" r.aggregation
      <*> p.withDefault 1 "alias" (optional text) none
      <*> p.withDefault 2 "span" span .zero

/-- Reads `*` or `owner.*`. -/
def shorthandProjection : Reader Projection :=
  record "struct ShorthandProjectionSegment" 2 fun p =>
    Projection.shorthand <$> p.withDefault 0 "owner" (optional text) none
      <*> p.withDefault 1 "span" span .zero

/-- Reads a scalar subquery of a select list. -/
def subqueryProjection : Reader Projection :=
  record "struct SubqueryProjectionSegment" 3 fun p =>
    Projection.subquery <$> p.required 0 "subquery" r.subquery
      <*> p.withDefault 1 "alias" (optional text) none
      <*> p.withDefault 2 "span" span .zero

/-- Reads an item of a select list. -/
def anyProjection : Reader Projection :=
  tagged "type" "internally tagged enum ProjectionSegment"
    [("Column", columnProjection),
      ("Expression", r.expressionProjection),
      ("Aggregation", r.aggregationProjection),
      ("Shorthand", shorthandProjection),
      ("Subquery", r.subqueryProjection)]

/-- Reads a select list. -/
def selectList : Reader SelectList :=
  record "struct ProjectionsSegment" 3 fun p =>
    SelectList.mk <$> p.withDefault 0 "distinct_row" flag false
      <*> p.required 1 "projections" (listOf r.projection)
      <*> p.withDefault 2 "span" span .zero

/-- Reads a condition under a name. -/
def condition (wanted : String) : Reader Condition :=
  record wanted 2 fun p =>
    Condition.mk <$> p.required 0 "expr" r.expr <*> p.withDefault 1 "span" span .zero

/-- Reads a WHERE clause. -/
def whereClause : Reader Condition := r.condition "struct WhereSegment"

/-- Reads a HAVING clause. -/
def having : Reader Condition := r.condition "struct HavingSegment"

/-- The three fields that every sort item has after its key. -/
def itemFields (p : Parts) (key : Draft (Direction → Option NullsOrder → Span → OrderItem)) :
    Draft OrderItem :=
  key <*> p.withDefault 1 "direction" direction .ascending
    <*> p.withDefault 2 "nulls_order" (optional nullsOrder) none
    <*> p.withDefault 3 "span" span .zero

/-- Reads a sort item. -/
def orderItem : Reader OrderItem :=
  tagged "type" "internally tagged enum OrderByItemSegment"
    [("Column", record "struct ColumnOrderByItemSegment" 4 fun p =>
        itemFields p (OrderItem.column <$> p.required 0 "column" column)),
      ("Expression", record "struct ExpressionOrderByItemSegment" 4 fun p =>
        itemFields p (OrderItem.expression <$> p.required 0 "expr" r.expr)),
      ("Index", record "struct IndexOrderByItemSegment" 4 fun p =>
        itemFields p (OrderItem.ordinal <$> p.required 0 "index" word64))]

/-- Reads the items of an ordering clause under a name. -/
def orderClause (wanted : String) : Reader OrderClause :=
  record wanted 2 fun p =>
    OrderClause.mk <$> p.required 0 "items" (listOf r.orderItem)
      <*> p.withDefault 1 "span" span .zero

/-- Reads a GROUP BY clause. -/
def groupBy : Reader OrderClause := r.orderClause "struct GroupBySegment"

/-- Reads an ORDER BY clause. -/
def orderBy : Reader OrderClause := r.orderClause "struct OrderBySegment"

/-- Reads a combination with another SELECT. -/
def combine : Reader Combine :=
  record "struct CombineSegment" 3 fun p =>
    Combine.mk <$> p.required 0 "combine_type" combineType
      <*> p.required 1 "select" r.subquery
      <*> p.withDefault 2 "span" span .zero

/-- Reads a SELECT. -/
def anySelect : Reader Select :=
  record "struct SelectStatement" 9 fun p =>
    Select.mk <$> p.withDefault 0 "projections" (optional r.selectList) none
      <*> p.withDefault 1 "from" (optional r.table) none
      <*> p.withDefault 2 "where_clause" (optional r.whereClause) none
      <*> p.withDefault 3 "group_by" (optional r.groupBy) none
      <*> p.withDefault 4 "having" (optional r.having) none
      <*> p.withDefault 5 "order_by" (optional r.orderBy) none
      <*> p.withDefault 6 "limit" (optional limit) none
      <*> p.withDefault 7 "combine" (optional r.combine) none
      <*> p.withDefault 8 "span" span .zero

/-- Readers of one level more. -/
def deeper : Readers where
  expr := r.anyExpr
  table := r.anyTable
  projection := r.anyProjection
  select := r.anySelect

end Readers

/-- Readers that refuse everything. -/
def Readers.none : Readers where
  expr _ _ := .error .tooDeep
  table _ _ := .error .tooDeep
  projection _ _ := .error .tooDeep
  select _ _ := .error .tooDeep

/-- Readers of values of at most `n` levels. -/
def readersAt : Nat → Readers
  | 0 => .none
  | n + 1 => (readersAt n).deeper

/-- A reader with as many levels as the value it is given has. -/
def within (read : Readers → Reader α) : Reader α := fun inner json =>
  read (readersAt json.depth) inner json

/-- Reads an expression. -/
def expr : Reader Expr := within Readers.expr

/-- Reads a table source. -/
def table : Reader Table := within Readers.table

/-- Reads an item of a select list. -/
def projection : Reader Projection := within Readers.projection

/-- Reads a SELECT. -/
def select : Reader Select := within Readers.select

/-! ## Statements -/

/-- Reads an assignment. -/
def assignment : Reader Assignment :=
  record "struct AssignmentSegment" 3 fun p =>
    Assignment.mk <$> p.required 0 "columns" (listOf column)
      <*> p.required 1 "value" expr
      <*> p.withDefault 2 "span" span .zero

/-- Reads a SET list. -/
def setClause : Reader SetClause :=
  record "struct SetAssignmentSegment" 2 fun p =>
    SetClause.mk <$> p.required 0 "assignments" (listOf assignment)
      <*> p.withDefault 1 "span" span .zero

/-- Reads a row of values. -/
def valuesRow : Reader ValuesRow :=
  record "struct InsertValuesSegment" 2 fun p =>
    ValuesRow.mk <$> p.required 0 "values" (listOf expr) <*> p.withDefault 1 "span" span .zero

/-- Reads an INSERT. -/
def insert : Reader Insert :=
  record "struct InsertStatement" 6 fun p =>
    Insert.mk <$> p.required 0 "table" simpleTable
      <*> p.withDefault 1 "columns" (listOf column) []
      <*> p.withDefault 2 "values" (listOf valuesRow) []
      <*> p.withDefault 3 "set_assignment" (optional setClause) none
      <*> p.withDefault 4 "select" (optional (within Readers.subquery)) none
      <*> p.withDefault 5 "span" span .zero

/-- Reads an UPDATE. -/
def update : Reader Update :=
  record "struct UpdateStatement" 6 fun p =>
    Update.mk <$> p.required 0 "table" table
      <*> p.required 1 "set_assignment" setClause
      <*> p.withDefault 2 "where_clause" (optional (within Readers.whereClause)) none
      <*> p.withDefault 3 "order_by" (optional (within Readers.orderBy)) none
      <*> p.withDefault 4 "limit" (optional limit) none
      <*> p.withDefault 5 "span" span .zero

/-- Reads a DELETE. -/
def delete : Reader Delete :=
  record "struct DeleteStatement" 5 fun p =>
    Delete.mk <$> p.required 0 "table" table
      <*> p.withDefault 1 "where_clause" (optional (within Readers.whereClause)) none
      <*> p.withDefault 2 "order_by" (optional (within Readers.orderBy)) none
      <*> p.withDefault 3 "limit" (optional limit) none
      <*> p.withDefault 4 "span" span .zero

/-- Reads a statement. -/
def statement : Reader Statement :=
  tagged "type" "internally tagged enum Statement"
    [("Select", fun inner json => (select inner json).map .select),
      ("Insert", fun inner json => (insert inner json).map .insert),
      ("Update", fun inner json => (update inner json).map .update),
      ("Delete", fun inner json => (delete inner json).map .delete)]

end Wire

/-! ## Writing -/

/-- A span as JSON. -/
def Span.toJson (s : Span) : Json :=
  .object [("start", .ofNat s.start.toNat), ("stop", .ofNat s.stop.toNat)]

/-- An optional text as JSON. -/
def Json.ofText? (text : Option String) : Json := .ofOption .string text

/-- The fields of a column. -/
def Column.fields (c : Column) : List (String × Json) :=
  [("owner", .ofText? c.owner), ("name", .string c.name), ("span", c.span.toJson)]

/-- A column as JSON. -/
def Column.toJson (c : Column) : Json := .object c.fields

/-- A literal value as JSON. -/
def Literal.toJson : Literal → Json
  | null => .string "Null"
  | boolean b => .object [("Boolean", .bool b)]
  | integer i => .object [("Integer", .ofInt i.toInt)]
  | decimal text => .object [("Decimal", .string text)]
  | string s => .object [("String", .string s)]

/-- The fields of a table given by name. -/
def SimpleTable.fields (t : SimpleTable) : List (String × Json) :=
  [("owner", .ofText? t.owner), ("name", .string t.name), ("alias", .ofText? t.aliasName),
    ("span", t.span.toJson)]

/-- A table given by name as JSON. -/
def SimpleTable.toJson (t : SimpleTable) : Json := .object t.fields

/-- A paging value as JSON. -/
def PageValue.toJson : PageValue → Json
  | number value span =>
    .object [("type", .string "Number"), ("value", .ofNat value.toNat), ("span", span.toJson)]
  | parameter index span =>
    .object [("type", .string "Parameter"), ("index", .ofNat index.toNat),
      ("span", span.toJson)]

/-- A LIMIT clause as JSON. -/
def Limit.toJson (l : Limit) : Json :=
  .object [("offset", .ofOption PageValue.toJson l.offset),
    ("row_count", .ofOption PageValue.toJson l.rowCount), ("span", l.span.toJson)]

/-- The fields that every sort item has after its key. -/
def OrderItem.tailFields (direction : Direction) (nulls : Option NullsOrder) (span : Span) :
    List (String × Json) :=
  [("direction", .string direction.name),
    ("nulls_order", .ofOption (fun n => .string n.name) nulls), ("span", span.toJson)]

mutual

/-- An expression as JSON. -/
def Expr.toJson : Expr → Json
  | .column c => .object (("type", .string "Column") :: c.fields)
  | .literal value span =>
    .object [("type", .string "Literal"), ("value", value.toJson), ("span", span.toJson)]
  | .parameter index span =>
    .object [("type", .string "Parameter"), ("index", .ofNat index.toNat),
      ("span", span.toJson)]
  | .binary left op right span =>
    .object [("type", .string "Binary"), ("left", left.toJson), ("operator", .string op),
      ("right", right.toJson), ("span", span.toJson)]
  | .negation operand span =>
    .object [("type", .string "Not"), ("expr", operand.toJson), ("span", span.toJson)]
  | .membership left right negated span =>
    .object [("type", .string "In"), ("left", left.toJson), ("right", right.toJson),
      ("not", .bool negated), ("span", span.toJson)]
  | .between operand low high negated span =>
    .object [("type", .string "Between"), ("left", operand.toJson), ("between", low.toJson),
      ("and", high.toJson), ("not", .bool negated), ("span", span.toJson)]
  | .list items span =>
    .object [("type", .string "List"), ("items", .array (exprsToJson items)),
      ("span", span.toJson)]
  | .function name arguments span =>
    .object [("type", .string "Function"), ("name", .string name),
      ("parameters", .array (exprsToJson arguments)), ("span", span.toJson)]
  | .aggregation call => .object (("type", .string "Aggregation") :: call.fields)
  | .subquery query => .object (("type", .string "Subquery") :: query.fields)
  | .existence query negated span =>
    .object [("type", .string "Exists"), ("subquery", .object query.fields),
      ("not", .bool negated), ("span", span.toJson)]
  | .caseWhen operand whens thens otherwise span =>
    .object [("type", .string "CaseWhen"), ("case_expr", optionalExprToJson operand),
      ("when_exprs", .array (exprsToJson whens)), ("then_exprs", .array (exprsToJson thens)),
      ("else_expr", optionalExprToJson otherwise), ("span", span.toJson)]
  | .common text span =>
    .object [("type", .string "Common"), ("text", .string text), ("span", span.toJson)]

/-- Expressions as JSON. -/
def exprsToJson : List Expr → List Json
  | [] => []
  | e :: es => e.toJson :: exprsToJson es

/-- An optional expression as JSON. -/
def optionalExprToJson : Option Expr → Json
  | none => .null
  | some e => e.toJson

/-- The fields of an aggregate call. -/
def Aggregation.fields : Aggregation → List (String × Json)
  | ⟨function, distinct, arguments, span⟩ =>
    [("aggregation_type", .string function.name), ("distinct", .bool distinct),
      ("parameters", .array (exprsToJson arguments)), ("span", span.toJson)]

/-- The fields of a parenthesised SELECT. -/
def Subquery.fields : Subquery → List (String × Json)
  | ⟨select, span⟩ => [("select", .object select.fields), ("span", span.toJson)]

/-- The fields of a SELECT. -/
def Select.fields : Select → List (String × Json)
  | ⟨projections, source, condition, groupBy, having, orderBy, limit, combine, span⟩ =>
    [("projections", optionalListToJson projections), ("from", optionalTableToJson source),
      ("where_clause", optionalConditionToJson condition),
      ("group_by", optionalClauseToJson groupBy), ("having", optionalConditionToJson having),
      ("order_by", optionalClauseToJson orderBy), ("limit", .ofOption Limit.toJson limit),
      ("combine", optionalCombineToJson combine), ("span", span.toJson)]

/-- An optional select list as JSON. -/
def optionalListToJson : Option SelectList → Json
  | none => .null
  | some list => list.toJson

/-- An optional table source as JSON. -/
def optionalTableToJson : Option Table → Json
  | none => .null
  | some table => table.toJson

/-- An optional condition as JSON. -/
def optionalConditionToJson : Option Condition → Json
  | none => .null
  | some c => c.toJson

/-- An optional ordering clause as JSON. -/
def optionalClauseToJson : Option OrderClause → Json
  | none => .null
  | some clause => clause.toJson

/-- An optional combination as JSON. -/
def optionalCombineToJson : Option Combine → Json
  | none => .null
  | some c => c.toJson

/-- A select list as JSON. -/
def SelectList.toJson : SelectList → Json
  | ⟨distinct, items, span⟩ =>
    .object [("distinct_row", .bool distinct), ("projections", .array (projectionsToJson items)),
      ("span", span.toJson)]

/-- Items of a select list as JSON. -/
def projectionsToJson : List Projection → List Json
  | [] => []
  | p :: ps => p.toJson :: projectionsToJson ps

/-- An item of a select list as JSON. -/
def Projection.toJson : Projection → Json
  | .column column aliasName span =>
    .object [("type", .string "Column"), ("column", column.toJson),
      ("alias", .ofText? aliasName), ("span", span.toJson)]
  | .expression expr aliasName span =>
    .object [("type", .string "Expression"), ("expr", expr.toJson),
      ("alias", .ofText? aliasName), ("span", span.toJson)]
  | .aggregation call aliasName span =>
    .object [("type", .string "Aggregation"), ("aggregation", .object call.fields),
      ("alias", .ofText? aliasName), ("span", span.toJson)]
  | .shorthand owner span =>
    .object [("type", .string "Shorthand"), ("owner", .ofText? owner), ("span", span.toJson)]
  | .subquery query aliasName span =>
    .object [("type", .string "Subquery"), ("subquery", .object query.fields),
      ("alias", .ofText? aliasName), ("span", span.toJson)]

/-- A table source as JSON. -/
def Table.toJson : Table → Json
  | .simple t => .object (("type", .string "Simple") :: t.fields)
  | .join left right type natural condition sharedColumns span =>
    .object [("type", .string "Join"), ("left", left.toJson), ("right", right.toJson),
      ("join_type", .string type.name), ("natural", .bool natural),
      ("condition", optionalExprToJson condition),
      ("using", .ofList Column.toJson sharedColumns), ("span", span.toJson)]
  | .subquery query aliasName span =>
    .object [("type", .string "Subquery"), ("subquery", .object query.fields),
      ("alias", .ofText? aliasName), ("span", span.toJson)]
  | .deleteMulti targets relation span =>
    .object [("type", .string "DeleteMultiTable"),
      ("targets", .ofList SimpleTable.toJson targets), ("relation", relation.toJson),
      ("span", span.toJson)]

/-- A condition as JSON. -/
def Condition.toJson : Condition → Json
  | ⟨expr, span⟩ => .object [("expr", expr.toJson), ("span", span.toJson)]

/-- An ordering clause as JSON. -/
def OrderClause.toJson : OrderClause → Json
  | ⟨items, span⟩ =>
    .object [("items", .array (orderItemsToJson items)), ("span", span.toJson)]

/-- Sort items as JSON. -/
def orderItemsToJson : List OrderItem → List Json
  | [] => []
  | item :: items => item.toJson :: orderItemsToJson items

/-- A sort item as JSON. -/
def OrderItem.toJson : OrderItem → Json
  | .column column direction nulls span =>
    .object (("type", .string "Column") :: ("column", column.toJson) ::
      OrderItem.tailFields direction nulls span)
  | .expression expr direction nulls span =>
    .object (("type", .string "Expression") :: ("expr", expr.toJson) ::
      OrderItem.tailFields direction nulls span)
  | .ordinal index direction nulls span =>
    .object (("type", .string "Index") :: ("index", .ofNat index.toNat) ::
      OrderItem.tailFields direction nulls span)

/-- A combination as JSON. -/
def Combine.toJson : Combine → Json
  | ⟨type, query, span⟩ =>
    .object [("combine_type", .string type.name), ("select", .object query.fields),
      ("span", span.toJson)]

end

/-- A SELECT as JSON. -/
def Select.toJson (s : Select) : Json := .object s.fields

/-- An assignment as JSON. -/
def Assignment.toJson (a : Assignment) : Json :=
  .object [("columns", .ofList Column.toJson a.columns), ("value", a.value.toJson),
    ("span", a.span.toJson)]

/-- A SET list as JSON. -/
def SetClause.toJson (s : SetClause) : Json :=
  .object [("assignments", .ofList Assignment.toJson s.assignments), ("span", s.span.toJson)]

/-- A row of values as JSON. -/
def ValuesRow.toJson (r : ValuesRow) : Json :=
  .object [("values", .ofList Expr.toJson r.values), ("span", r.span.toJson)]

/-- A statement as JSON. -/
def Statement.toJson : Statement → Json
  | select s => .object (("type", .string "Select") :: s.fields)
  | insert s =>
    .object [("type", .string "Insert"), ("table", s.table.toJson),
      ("columns", .ofList Column.toJson s.columns), ("values", .ofList ValuesRow.toJson s.rows),
      ("set_assignment", .ofOption SetClause.toJson s.set),
      ("select", .ofOption (fun q => .object q.fields) s.query), ("span", s.span.toJson)]
  | update s =>
    .object [("type", .string "Update"), ("table", s.table.toJson),
      ("set_assignment", s.set.toJson),
      ("where_clause", .ofOption Condition.toJson s.condition),
      ("order_by", .ofOption OrderClause.toJson s.orderBy),
      ("limit", .ofOption Limit.toJson s.limit), ("span", s.span.toJson)]
  | delete s =>
    .object [("type", .string "Delete"), ("table", s.table.toJson),
      ("where_clause", .ofOption Condition.toJson s.condition),
      ("order_by", .ofOption OrderClause.toJson s.orderBy),
      ("limit", .ofOption Limit.toJson s.limit), ("span", s.span.toJson)]

end SqlAlgebra
