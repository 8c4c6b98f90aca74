import SqlAlgebra.Conversion.Expression

/-!
# Converting table sources

The conversion rules for tables. A table binds the name under which its columns are known in
the innermost scope; both sides of a join are bound before its condition is converted, and a
derived table is bound after its SELECT, so that nothing in it sees its own alias.
-/

namespace SqlAlgebra

namespace Conversion

open ConvertM

/-- A table by name. -/
def simpleTable (t : SimpleTable) : ConvertM Plan := do
  modifyContext (.bindAlias t.bindingName)
  let scan := Plan.scan t.qualifiedName t.span
  match t.aliasName with
  | some name => return .aliased scan (some name) t.span
  | none => return scan

/-- What is wrong with a join, judged by its form alone. -/
def joinDefect? (type : JoinType) (natural hasCondition hasColumns : Bool) : Option Defect :=
  if hasCondition && hasColumns then some .twoJoinConditions
  else if natural && (hasCondition || hasColumns) then some .naturalJoinCondition
  else if type.isCross && (hasCondition || hasColumns) then some .crossJoinCondition
  else none

/-- A side of a join, which must not convert to nothing. -/
def joinSide (go : Descent) (side : Table) (span : Span) : ConvertM Plan := do
  let some plan ← go (.table side)
    | throw (.malformedSegment .joinTable .emptyJoinOperand span)
  return plan

/-- What the rows of a join are matched by. -/
def joinCondition (go : Descent) (condition : Option Expr) (sharedColumns : List Column) :
    ConvertM JoinCondition :=
  match condition with
  | some e => do
    let some plan ← go (.expression e) | throw (.emptyClause .joinCondition e.span)
    return .condition plan
  | none =>
    if sharedColumns.isEmpty then return .none
    else return .columns (sharedColumns.map Column.name)

/-- A join. -/
def joinTable (go : Descent) (left right : Table) (type : JoinType) (natural : Bool)
    (condition : Option Expr) (sharedColumns : List Column) (span : Span) : ConvertM Plan :=
  match joinDefect? type natural condition.isSome !sharedColumns.isEmpty with
  | some defect => throw (.malformedSegment .joinTable defect span)
  | none => do
    let first ← joinSide go left span
    let second ← joinSide go right span
    let matched ← joinCondition go condition sharedColumns
    return .join first second type natural matched

/-- The relation of a derived table. A SELECT without a select list stands for its source. -/
def derivedSource (go : Descent) (select : Select) (span : Span) : ConvertM (Option Plan) :=
  match select.projections with
  | some _ => go (.select select)
  | none => do
    let source ← match select.source with
      | some table => go (.table table)
      | none => pure none
    match source with
    | some plan => return some (.explicitTable plan)
    | none =>
      report (.sourceMissing span)
      return none

/-- A derived table. -/
def subqueryTable (go : Descent) (query : Subquery) (aliasName : Option String) (span : Span) :
    ConvertM (Option Plan) := do
  let some source ← derivedSource go query.select span | return none
  match aliasName with
  | some name => modifyContext (.bindAlias name)
  | none => pure ()
  return some (.aliased source aliasName span)

end Conversion

open Conversion in
/-- Applies a rule to a table, which must be of the rule's kind. -/
def TableRule.apply (go : Descent) (rule : TableRule) (t : Table) : ConvertM (Option Plan) :=
  match rule, t with
  | .simple, .simple t => some <$> simpleTable t
  | .join, .join left right type natural condition sharedColumns span =>
    some <$> joinTable go left right type natural condition sharedColumns span
  | .subquery, .subquery query aliasName span => subqueryTable go query aliasName span
  | rule, t => throw (.converterMismatch rule.kind t.kind)

end SqlAlgebra
