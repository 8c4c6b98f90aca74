import SqlAlgebra.Conversion.Registry
import SqlAlgebra.Conversion.Session

/-!
# Converting expressions

The conversion rules for expressions. A rule converts the parts of a segment through the
`Descent` it is given and never looks further down itself, except that IS and IN look at the
form of their right side. If a part converts to nothing, so does the whole expression: no
call is built from some of its operands.
-/

namespace SqlAlgebra

/-- How the parts of a segment are converted: to a plan, or to nothing. -/
abbrev Descent := Segment → ConvertM (Option Plan)

namespace Conversion

open ConvertM

/-- The call of an operator; a wrong number of operands is a failure. -/
def call (op : Operator) (operands : List Plan) (distinct : Bool) (span : Span) :
    ConvertM Plan :=
  match Plan.apply op operands distinct span with
  | .ok plan => pure plan
  | .error e => throw (.invalidArity e)

/-- Converts expressions in order, up to the first that converts to nothing. -/
def expressions (go : Descent) (owner : SegmentKind) :
    List Expr → ConvertM (Option (List Plan))
  | [] => return some []
  | e :: es => do
    match ← go (.expression e) with
    | none =>
      report (.operandAbsent owner e.kind)
      return none
    | some plan =>
      let some plans ← expressions go owner es | return none
      return some (plan :: plans)

/-! ## Leaves -/

/-- Looks up the owner of a column. If it is bound in an outer scope, that is reported. -/
def lookUp (owner column : String) : ConvertM Unit := do
  let depth := (← context).qualifierDepth? owner
  report (.ownerLookedUp owner column depth)
  match depth with
  | none | some 0 => pure ()
  | some (n + 1) => report (.columnCorrelated owner column (n + 1))

/-- The name of a column. -/
def column (c : Column) : ConvertM Plan := do
  match c.owner with
  | none => pure ()
  | some owner => lookUp owner c.name
  return .identifier c.qualifiedName c.span

/-! ## Operations -/

/-- For the words IS and IS NOT, whether the test is negated. -/
def testNegated? (operator : String) : Option Bool :=
  match Text.normalForm operator with
  | "IS" => some false
  | "IS NOT" => some true
  | _ => none

/-- The operator that tests for a literal: null or a truth value. -/
def literalTest? (negated : Bool) : Expr → Option CoreOperator
  | .literal .null _ => some (if negated then .isNotNull else .isNull)
  | .literal (.boolean true) _ => some (if negated then .isNotTrue else .isTrue)
  | .literal (.boolean false) _ => some (if negated then .isNotFalse else .isFalse)
  | _ => none

/-- A binary operation. A test by IS drops its right side; any other operator has its meaning
from the operator table, and is looked up before the operands are converted. The table takes the
normal form of what it is given, so collapsing the text first makes no difference
(`OperatorTable.resolveBinary?_collapsed`). -/
def binary (operators : OperatorTable) (go : Descent) (left : Expr) (operator : String)
    (right : Expr) (span : Span) : ConvertM (Option Plan) :=
  match testNegated? operator with
  | some negated =>
    match literalTest? negated right with
    | none => throw (.unsupportedOperator operator left.kind right.kind span)
    | some op => do
      let some operand ← go (.expression left) | return none
      return some (← call op [operand] false span)
  | none =>
    match operators.resolveBinary? (Text.collapsed operator) with
    | none => throw (.unsupportedOperator operator left.kind right.kind span)
    | some op => do
      let some first ← go (.expression left) | return none
      let some second ← go (.expression right) | return none
      return some (← call op [first, second] false span)

/-- A negation. -/
def negation (go : Descent) (operand : Expr) (span : Span) : ConvertM (Option Plan) := do
  let some plan ← go (.expression operand) | return none
  return some (← call CoreOperator.not [plan] false span)

/-- The right side of IN: a subquery stands for its rows. -/
def memberSource (go : Descent) : Expr → ConvertM (Option Plan)
  | .subquery query => go (.select query.select)
  | e => go (.expression e)

/-- A membership test. -/
def membership (go : Descent) (left right : Expr) (negated : Bool) (span : Span) :
    ConvertM (Option Plan) := do
  let some element ← go (.expression left) | return none
  let some source ← memberSource go right | return none
  let op : CoreOperator := if negated then .notMemberOf else .memberOf
  return some (← call op [element, source] false span)

/-- A range test. -/
def between (go : Descent) (operand low high : Expr) (negated : Bool) (span : Span) :
    ConvertM (Option Plan) := do
  let some operands ← expressions go .between [operand, low, high] | return none
  let op : CoreOperator := if negated then .notBetween else .between
  return some (← call op operands false span)

/-- A list. -/
def list (go : Descent) (items : List Expr) (span : Span) : ConvertM (Option Plan) := do
  let some plans ← expressions go .list items | return none
  return some (.list plans span)

/-! ## Calls -/

/-- A function call. The number of arguments is checked before they are converted. -/
def function (operators : OperatorTable) (go : Descent) (name : String) (arguments : List Expr)
    (span : Span) : ConvertM (Option Plan) := do
  let op := operators.resolveFunction name
  match op with
  | .function name => report (.functionUnresolved name)
  | _ => pure ()
  if op.arity.accepts arguments.length then
    let some operands ← expressions go .function arguments | return none
    return some (← call op operands false span)
  else
    throw (.malformedSegment .function (.argumentCount op arguments.length) span)

/-- The operator of an aggregate function. -/
def aggregateOperator : AggregateFunction → CoreOperator
  | .count => .count
  | .sum => .sum
  | .avg => .avg
  | .min => .min
  | .max => .max

/-- The operands of an aggregate call. COUNT without arguments counts rows. -/
def aggregateOperands (go : Descent) (a : Aggregation) : ConvertM (Option (List Plan)) :=
  let op := aggregateOperator a.function
  if a.arguments.isEmpty then
    if op = .count then return some [.star none .zero]
    else throw (.malformedSegment .aggregation (.missingArgument op) a.span)
  else if op.arity.accepts a.arguments.length then
    expressions go .aggregation a.arguments
  else
    throw (.malformedSegment .aggregation (.argumentCount op a.arguments.length) a.span)

/-- An aggregate call. -/
def aggregation (go : Descent) (a : Aggregation) : ConvertM (Option Plan) := do
  let some operands ← aggregateOperands go a | return none
  return some (← call (aggregateOperator a.function) operands a.distinct a.span)

/-! ## Subqueries -/

/-- A subquery in the place of a scalar. -/
def scalarSubquery (go : Descent) (query : Subquery) : ConvertM (Option Plan) := do
  let some plan ← go (.select query.select) | return none
  return some (← call CoreOperator.scalarQuery [plan] false query.span)

/-- A test whether a subquery has rows. -/
def existence (go : Descent) (query : Subquery) (negated : Bool) (span : Span) :
    ConvertM (Option Plan) := do
  let some plan ← go (.select query.select) | return none
  let test ← call CoreOperator.existsQuery [plan] false span
  if negated then
    return some (← call CoreOperator.not [test] false span)
  else
    return some test

/-! ## Case distinctions -/

/-- The branches of a CASE: each WHEN followed by its THEN. -/
def branches (go : Descent) : List Expr → List Expr → ConvertM (Option (List Plan))
  | w :: ws, t :: ts => do
    let some condition ← go (.expression w) | return none
    let some result ← go (.expression t) | return none
    let some rest ← branches go ws ts | return none
    return some (condition :: result :: rest)
  | _, _ => return some []

/-- The operand of a simple CASE as a list; a searched CASE has none. -/
def caseOperand (go : Descent) : Option Expr → ConvertM (Option (List Plan))
  | none => return some []
  | some e => do
    let some plan ← go (.expression e) | return none
    return some [plan]

/-- The ELSE of a CASE; without one the result is null. -/
def caseOtherwise (go : Descent) : Option Expr → ConvertM (Option Plan)
  | none => return some (.literal .null .zero)
  | some e => go (.expression e)

/-- A CASE expression. -/
def caseWhen (go : Descent) (operand : Option Expr) (whens thens : List Expr)
    (otherwise : Option Expr) (span : Span) : ConvertM (Option Plan) :=
  if whens.isEmpty || whens.length != thens.length then
    throw (.malformedSegment .caseWhen (.branchCount whens.length thens.length) span)
  else do
    let some lead ← caseOperand go operand | return none
    let some middle ← branches go whens thens | return none
    let some last ← caseOtherwise go otherwise | return none
    let op : CoreOperator := if operand.isSome then .simpleCase else .searchedCase
    return some (← call op (lead ++ middle ++ [last]) false span)

end Conversion

/-- Applies a rule to an expression, which must be of the rule's kind. -/
def ExprRule.apply (operators : OperatorTable) (go : Descent) (rule : ExprRule) (e : Expr) :
    ConvertM (Option Plan) :=
  match rule, e with
  | .column, .column c => some <$> Conversion.column c
  | .literal, .literal value span => return some (.literal value span)
  | .parameter, .parameter index span => return some (.parameter index span)
  | .binary, .binary left operator right span =>
    Conversion.binary operators go left operator right span
  | .negation, .negation operand span => Conversion.negation go operand span
  | .membership, .membership left right negated span =>
    Conversion.membership go left right negated span
  | .between, .between operand low high negated span =>
    Conversion.between go operand low high negated span
  | .list, .list items span => Conversion.list go items span
  | .function, .function name arguments span =>
    Conversion.function operators go name arguments span
  | .aggregation, .aggregation a => Conversion.aggregation go a
  | .subquery, .subquery query => Conversion.scalarSubquery go query
  | .existence, .existence query negated span => Conversion.existence go query negated span
  | .caseWhen, .caseWhen operand whens thens otherwise span =>
    Conversion.caseWhen go operand whens thens otherwise span
  | rule, e => throw (.converterMismatch rule.kind e.kind)

end SqlAlgebra
