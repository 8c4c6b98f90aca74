import SqlAlgebra.Operator.Table
import SqlAlgebra.Segment.Tree

/-!
# Registries

A registry says how each kind of segment is converted. Every family of segments has a
dispatch table from kinds to handlers. The standard handler of a kind applies the rule for
that kind; a handler may also convert every segment to nothing, hand the segment back to its
table, or refuse it. A kind without an entry is refused. A rule applied to a segment of
another kind than its own is a mismatch, so a table can be wired wrongly but not silently.
Nested SELECTs have an entry of their own.
-/

namespace SqlAlgebra

/-! ## Rules -/

/-- The conversion rules for tables. -/
inductive TableRule
  | simple
  | join
  | subquery
deriving DecidableEq, Repr

/-- The conversion rules for select-list items. -/
inductive ProjectionRule
  | column
  | expression
  | aggregation
  | shorthand
  | subquery
deriving DecidableEq, Repr

/-- The conversion rules for expressions. -/
inductive ExprRule
  | column
  | literal
  | parameter
  | binary
  | negation
  | membership
  | between
  | list
  | function
  | aggregation
  | subquery
  | existence
  | caseWhen
deriving DecidableEq, Repr

/-- The conversion rules for statements. -/
inductive StatementRule
  | select
  | insert
  | update
  | delete
deriving DecidableEq, Repr

namespace TableRule

/-- The kind a rule converts. -/
def kind : TableRule → SegmentKind
  | simple => .simpleTable
  | join => .joinTable
  | subquery => .subqueryTable

/-- Every rule for tables. -/
def all : List TableRule := [simple, join, subquery]

end TableRule

namespace ProjectionRule

/-- The kind a rule converts. -/
def kind : ProjectionRule → SegmentKind
  | column => .columnProjection
  | expression => .expressionProjection
  | aggregation => .aggregationProjection
  | shorthand => .shorthandProjection
  | subquery => .subqueryProjection

/-- Every rule for select-list items. -/
def all : List ProjectionRule := [column, expression, aggregation, shorthand, subquery]

end ProjectionRule

namespace ExprRule

/-- The kind a rule converts. -/
def kind : ExprRule → SegmentKind
  | column => .column
  | literal => .literal
  | parameter => .parameterMarker
  | binary => .binaryOperation
  | negation => .negation
  | membership => .membership
  | between => .between
  | list => .list
  | function => .function
  | aggregation => .aggregation
  | subquery => .subquery
  | existence => .existsSubquery
  | caseWhen => .caseWhen

/-- Every rule for expressions. -/
def all : List ExprRule :=
  [column, literal, parameter, binary, negation, membership, between, list, function,
    aggregation, subquery, existence, caseWhen]

end ExprRule

namespace StatementRule

/-- The kind a rule converts. -/
def kind : StatementRule → SegmentKind
  | select => .selectStatement
  | insert => .insertStatement
  | update => .updateStatement
  | delete => .deleteStatement

/-- Every rule for statements. -/
def all : List StatementRule := [select, insert, update, delete]

end StatementRule

/-! ## Dispatch tables -/

/-- How segments of a kind are converted. -/
inductive Handler (ρ : Type)
  /-- By a rule, which must be the rule of the segment's kind. -/
  | rule (rule : ρ)
  /-- To nothing. -/
  | absent
  /-- By looking the segment up once more, one level deeper. -/
  | redispatch
  /-- Not at all. -/
  | unsupported
deriving DecidableEq, Repr

/-- The handlers of one family of segments. -/
structure DispatchTable (ρ : Type) where
  /-- The entry for a kind. -/
  entry? : SegmentKind → Option (Handler ρ)

namespace DispatchTable

/-- The table without entries. -/
def empty : DispatchTable ρ := ⟨fun _ => none⟩

/-- The table with one entry more, in place of an entry for the same kind. -/
def register (kind : SegmentKind) (handler : Handler ρ) (table : DispatchTable ρ) :
    DispatchTable ρ :=
  ⟨fun k => if k = kind then some handler else table.entry? k⟩

/-- The table without an entry for a kind. -/
def remove (kind : SegmentKind) (table : DispatchTable ρ) : DispatchTable ρ :=
  ⟨fun k => if k = kind then none else table.entry? k⟩

/-- The handler of a kind; a kind without an entry is refused. -/
def handler (table : DispatchTable ρ) (kind : SegmentKind) : Handler ρ :=
  (table.entry? kind).getD .unsupported

/-- Whether a kind has an entry. -/
def contains (table : DispatchTable ρ) (kind : SegmentKind) : Bool :=
  (table.entry? kind).isSome

/-- The kinds with an entry, in declared order. -/
def kinds (table : DispatchTable ρ) : List SegmentKind :=
  SegmentKind.all.filter table.contains

/-- The table with an entry for the kind of every given rule. -/
def ofRules (rules : List ρ) (kind : ρ → SegmentKind) : DispatchTable ρ :=
  rules.foldl (fun table rule => table.register (kind rule) (.rule rule)) empty

end DispatchTable

/-! ## Registries -/

/-- How nested SELECTs are converted. -/
inductive SelectHandler
  | standard
  | absent
  | redispatch
deriving DecidableEq, Repr

/-- How every kind of segment is converted, and what operator texts mean. -/
structure Registry where
  tables : DispatchTable TableRule
  projections : DispatchTable ProjectionRule
  expressions : DispatchTable ExprRule
  statements : DispatchTable StatementRule
  select : SelectHandler := .standard
  operators : OperatorTable := .standard

namespace Registry

/-- The registry that refuses every segment. -/
def empty : Registry where
  tables := .empty
  projections := .empty
  expressions := .empty
  statements := .empty

/-- The registry with every rule at its kind. -/
def standard : Registry where
  tables := .ofRules TableRule.all TableRule.kind
  projections := .ofRules ProjectionRule.all ProjectionRule.kind
  expressions := .ofRules ExprRule.all ExprRule.kind
  statements := .ofRules StatementRule.all StatementRule.kind

/-- The registry without entries for a kind. -/
def without (kind : SegmentKind) (r : Registry) : Registry :=
  { r with
    tables := r.tables.remove kind
    projections := r.projections.remove kind
    expressions := r.expressions.remove kind
    statements := r.statements.remove kind }

/-- The registry with a handler for a kind of tables. -/
def withTable (kind : SegmentKind) (handler : Handler TableRule) (r : Registry) : Registry :=
  { r with tables := r.tables.register kind handler }

/-- The registry with a handler for a kind of select-list items. -/
def withProjection (kind : SegmentKind) (handler : Handler ProjectionRule) (r : Registry) :
    Registry :=
  { r with projections := r.projections.register kind handler }

/-- The registry with a handler for a kind of expressions. -/
def withExpression (kind : SegmentKind) (handler : Handler ExprRule) (r : Registry) :
    Registry :=
  { r with expressions := r.expressions.register kind handler }

/-- The registry with a handler for a kind of statements. -/
def withStatement (kind : SegmentKind) (handler : Handler StatementRule) (r : Registry) :
    Registry :=
  { r with statements := r.statements.register kind handler }

end Registry

end SqlAlgebra
