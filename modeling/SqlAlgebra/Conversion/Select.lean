import SqlAlgebra.Conversion.Projection
import SqlAlgebra.Conversion.Table

/-!
# Converting SELECTs

The clauses of a SELECT are converted in a fixed order, in a scope of their own, and then
composed from the inside out: source, WHERE, grouping, HAVING, select list, set operation,
order and paging. A clause that is present must not convert to nothing. `SelectParts` holds
what the clauses convert to and `SelectParts.plan` composes them.
-/

namespace SqlAlgebra

/-! ## Composition -/

/-- What the clauses of a SELECT convert to. -/
structure SelectParts where
  source : Plan
  condition : Option Plan
  groupBy : Option (List Plan)
  having : Option Plan
  /-- The select list, and whether duplicates are removed. -/
  projections : Option (List Plan × Bool)
  orderBy : List Plan
  offset : Option Plan
  fetch : Option Plan
  combined : Option (CombineType × Plan)

namespace SelectParts

/-- A plan under a condition, if there is one. -/
def filtered (condition : Option Plan) (plan : Plan) : Plan :=
  match condition with
  | some c => .filter plan c
  | none => plan

/-- A plan grouped by keys; HAVING alone groups all rows together. -/
def grouped (keys : Option (List Plan)) (having : Option Plan) (plan : Plan) : Plan :=
  match keys, having with
  | none, none => plan
  | keys, _ => .aggregate plan (keys.getD [])

/-- A plan under a select list, if there is one. -/
def projected (projections : Option (List Plan × Bool)) (plan : Plan) : Plan :=
  match projections with
  | some (items, distinct) => .project plan items distinct
  | none => plan

/-- A plan combined with another one, if there is one. -/
def combinedWith (combined : Option (CombineType × Plan)) (plan : Plan) : Plan :=
  match combined with
  | some (type, right) =>
    let (operation, all) := type.setOperation
    .setOp operation all plan right
  | none => plan

/-- A plan in order and page by page, if either is asked for. -/
def sorted (orderBy : List Plan) (offset fetch : Option Plan) (plan : Plan) : Plan :=
  match orderBy, offset, fetch with
  | [], none, none => plan
  | orderBy, offset, fetch => .sort plan orderBy offset fetch

/-- The plan of a SELECT. -/
def plan (p : SelectParts) : Plan :=
  sorted p.orderBy p.offset p.fetch <|
    combinedWith p.combined <|
    projected p.projections <|
    filtered p.having <|
    grouped p.groupBy p.having <|
    filtered p.condition p.source

end SelectParts

/-! ## Clauses -/

namespace Conversion

open ConvertM

/-- Converts items in order, dropping those that convert to nothing. -/
def kept (convert : α → ConvertM (Option Plan)) : List α → ConvertM (List Plan)
  | [] => return []
  | a :: rest => do
    let plan ← convert a
    let plans ← kept convert rest
    return plan.toList ++ plans

/-- Plans that must not be missing altogether. -/
def nonEmpty (plans : List Plan) : Option (List Plan) :=
  if plans.isEmpty then none else some plans

/-- A clause that must not convert to nothing. -/
def required (clause : Clause) (span : Span) (body : ConvertM (Option α)) : ConvertM α := do
  let some a ← body | throw (.emptyClause clause span)
  return a

/-- Converts a clause if it is present. -/
def whenPresent (convert : α → ConvertM β) : Option α → ConvertM (Option β)
  | none => return none
  | some a => some <$> convert a

/-- The greatest number that a literal can hold. -/
def greatestLiteral : UInt64 := 9223372036854775807

/-- The literal of a count, if it is in range. -/
def countLiteral? (n : UInt64) (span : Span) : Option Plan :=
  if n ≤ greatestLiteral then some (.literal (.integer n.toInt64) span) else none

/-- The key of a sort or grouping item. -/
def itemKey (go : Descent) : OrderItem → ConvertM (Option Plan)
  | .column c _ _ _ => some <$> column c
  | .expression e _ _ _ => go (.expression e)
  | .ordinal index _ _ span =>
    match countLiteral? index span with
    | some plan => return some plan
    | none => throw (.malformedSegment .orderByItem (.ordinalRange index) span)

/-- A key in its direction; an ascending key stays as it is. -/
def directed (direction : Direction) (span : Span) (key : Plan) : ConvertM Plan :=
  match direction with
  | .descending => call CoreOperator.descending [key] false span
  | .ascending => return key

/-- A key with the place of nulls. -/
def nullsPlaced (nulls : Option NullsOrder) (key : Plan) : ConvertM Plan :=
  match nulls with
  | some .first => call CoreOperator.nullsFirst [key] false .zero
  | some .last => call CoreOperator.nullsLast [key] false .zero
  | none => return key

/-- A sort item. -/
def orderItem (go : Descent) (item : OrderItem) : ConvertM (Option Plan) := do
  let some key ← itemKey go item | return none
  let key ← directed item.direction item.span key
  return some (← nullsPlaced item.nulls key)

/-- The condition of a WHERE or HAVING clause. -/
def condition (go : Descent) (c : SqlAlgebra.Condition) : ConvertM (Option Plan) :=
  go (.expression c.expr)

/-- The keys of a GROUP BY clause; directions are ignored. -/
def groupKeys (go : Descent) (clause : OrderClause) : ConvertM (Option (List Plan)) :=
  nonEmpty <$> kept (itemKey go) clause.items

/-- The keys of an ORDER BY clause. -/
def orderKeys (go : Descent) (clause : OrderClause) : ConvertM (Option (List Plan)) :=
  nonEmpty <$> kept (orderItem go) clause.items

/-- The items of a select list. -/
def selectList (go : Descent) (l : SelectList) : ConvertM (Option (List Plan)) :=
  nonEmpty <$> selectItems go 0 l.items

/-- A value of LIMIT or OFFSET. -/
def pageValue : PageValue → ConvertM Plan
  | .number value span =>
    match countLiteral? value span with
    | some plan => return plan
    | none => throw (.malformedSegment .limit (.pageRange value) span)
  | .parameter index span => return .parameter index span

/-- The number of rows to skip, if it is given. -/
def offset (limit : Option Limit) : ConvertM (Option Plan) :=
  whenPresent pageValue (limit.bind Limit.offset)

/-- The number of rows to keep, if it is given. -/
def rowCount (limit : Option Limit) : ConvertM (Option Plan) :=
  whenPresent pageValue (limit.bind Limit.rowCount)

/-- The SELECT on the right of a set operation. -/
def combine (go : Descent) (c : SqlAlgebra.Combine) : ConvertM (Option Plan) :=
  go (.select c.query.select)

/-! ## SELECTs -/

/-- The source of a SELECT; without FROM it is a single empty row. -/
def source (go : Descent) : Option Table → ConvertM Plan
  | none => return .singleRow
  | some table => required .source table.span (go (.table table))

/-- The clauses of a SELECT, one after the other. -/
def selectParts (go : Descent) (s : Select) : ConvertM SelectParts := do
  let relation ← source go s.source
  let filter ← whenPresent (fun c => required .condition c.span (condition go c)) s.condition
  let groups ← whenPresent (fun c => required .groupBy c.span (groupKeys go c)) s.groupBy
  let groupFilter ← whenPresent (fun c => required .having c.span (condition go c)) s.having
  let items ← whenPresent
    (fun l => (·, l.distinct) <$> required .selectList l.span (selectList go l)) s.projections
  let keys ← whenPresent (fun c => required .orderBy c.span (orderKeys go c)) s.orderBy
  let skipped ← offset s.limit
  let fetched ← rowCount s.limit
  let right ← whenPresent
    (fun c => (c.type, ·) <$> required .combine c.span (combine go c)) s.combine
  return {
    source := relation
    condition := filter
    groupBy := groups
    having := groupFilter
    projections := items
    orderBy := keys.getD []
    offset := skipped
    fetch := fetched
    combined := right }

/-- A SELECT, in a scope of its own. -/
def select (go : Descent) (s : Select) : ConvertM Plan :=
  inScope (SelectParts.plan <$> selectParts go s)

end Conversion

end SqlAlgebra
