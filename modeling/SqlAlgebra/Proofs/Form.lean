import Mathlib.Data.List.Forall2
import SqlAlgebra.Conversion.Engine
import SqlAlgebra.Proofs.Run

/-!
# The forms of plans

What a segment converts to, one level deep: the plan is put together from the plans of the
parts, and the relations of this module say how, family by family. They do not say what the
plans of the parts are. That is left to a `PartSpec`, which is whatever a proof knows about
the plan of an expression, a table, a nested SELECT or a select-list item; so a property of
all plans is a `PartSpec` that every form hands on from the parts to the whole.

The forms describe the standard registry, where no part of an expression and no item of a
list converts to nothing.
-/

namespace SqlAlgebra

open Conversion

/-- What is known about the plans of the parts of a statement. An item of a select list is
known at its position. -/
structure PartSpec where
  expr : Expr → Plan → Prop
  table : Table → Plan → Prop
  select : Select → Plan → Prop
  item : Nat → Projection → Plan → Prop

/-! ## Expressions -/

/-- The plan of an aggregate call. -/
inductive AggregateForm (K : PartSpec) : Aggregation → Plan → Prop
  /-- COUNT without arguments counts rows. -/
  | rows {a : Aggregation} (hfunction : a.function = .count) (hnone : a.arguments = []) :
    AggregateForm K a (.call (.core .count) [.star none .zero] a.distinct a.span)
  | arguments {a : Aggregation} {operands : List Plan} (hsome : a.arguments ≠ [])
      (harity : (aggregateOperator a.function).arity.accepts a.arguments.length)
      (hoperands : List.Forall₂ K.expr a.arguments operands) :
    AggregateForm K a (.call (aggregateOperator a.function) operands a.distinct a.span)

/-- The operators that test for a literal. -/
def testOperators : List CoreOperator :=
  [.isNull, .isNotNull, .isTrue, .isNotTrue, .isFalse, .isNotFalse]

/-- What holds of the six operators of IS holds of the one that tests for a literal. -/
theorem of_literalTest? {P : CoreOperator → Prop} (hP : ∀ op ∈ testOperators, P op)
    {negated : Bool} {x : Expr} {op : CoreOperator} (h : literalTest? negated x = some op) :
    P op := by
  refine hP op ?_
  unfold literalTest? at h
  split at h
  · obtain rfl := Option.some.inj h
    cases negated <;> decide
  · obtain rfl := Option.some.inj h
    cases negated <;> decide
  · obtain rfl := Option.some.inj h
    cases negated <;> decide
  · cases h

/-- Only literals are tested for. -/
theorem eq_literal_of_literalTest? {negated : Bool} {x : Expr} {op : CoreOperator}
    (h : literalTest? negated x = some op) : ∃ value span, x = .literal value span := by
  unfold literalTest? at h
  split at h
  · exact ⟨_, _, rfl⟩
  · exact ⟨_, _, rfl⟩
  · exact ⟨_, _, rfl⟩
  · cases h

/-- The operator of a membership test. -/
def membershipOperator (negated : Bool) : CoreOperator :=
  if negated then .notMemberOf else .memberOf

/-- The operator of a range test. -/
def rangeOperator (negated : Bool) : CoreOperator :=
  if negated then .notBetween else .between

/-- The operator of a CASE, which may have an operand in front. -/
def caseOperator (operand : Option Expr) : CoreOperator :=
  if operand.isSome then .simpleCase else .searchedCase

/-- Each WHEN followed by its THEN. -/
def interleaved : List Expr → List Expr → List Expr
  | w :: ws, t :: ts => w :: t :: interleaved ws ts
  | _, _ => []

/-- Two lists of one length, taken in turns, are twice as long. -/
theorem length_interleaved : ∀ {whens thens : List Expr}, whens.length = thens.length →
    (interleaved whens thens).length = 2 * whens.length
  | [], _, _ => rfl
  | _ :: _, [], h => by cases h
  | _ :: ws, _ :: ts, h => by
    rw [interleaved, List.length_cons, List.length_cons,
      length_interleaved (Nat.succ.inj h), List.length_cons]
    omega

/-- Two lists of parts taken in turns, with what is left of the longer one at the end. -/
def inTurns {α : Type} : List (List α) → List (List α) → List α
  | w :: ws, t :: ts => w ++ t ++ inTurns ws ts
  | ws, [] => ws.flatten
  | [], ts => ts.flatten

/-- Lists that are computed branch by branch follow one another like the branches. -/
theorem inTurns_map {α : Type} (f : Expr → List α) :
    ∀ {ws ts : List Expr}, ws.length = ts.length →
      inTurns (ws.map f) (ts.map f) = (interleaved ws ts).flatMap f
  | [], [], _ => rfl
  | w :: ws, t :: ts, h => by
    rw [List.map_cons, List.map_cons, inTurns, inTurns_map f (Nat.succ.inj h), interleaved,
      List.flatMap_cons, List.flatMap_cons, List.append_assoc]

/-- The plan of the ELSE of a CASE; without one it is null. -/
inductive OtherwiseForm (K : PartSpec) : Option Expr → Plan → Prop
  | none : OtherwiseForm K none (.literal .null .zero)
  | some {x : Expr} {p : Plan} (h : K.expr x p) : OtherwiseForm K (some x) p

/-- The plan of an expression. -/
inductive ExprForm (operators : OperatorTable) (K : PartSpec) : Expr → Plan → Prop
  | column (c : Column) : ExprForm operators K (.column c) (.identifier c.qualifiedName c.span)
  | literal (value : Literal) (span : Span) :
    ExprForm operators K (.literal value span) (.literal value span)
  | parameter (index : UInt64) (span : Span) :
    ExprForm operators K (.parameter index span) (.parameter index span)
  /-- A test by IS drops its right side. -/
  | test {left right : Expr} {operator : String} {span : Span} {negated : Bool}
      {op : CoreOperator} {p : Plan} (hoperator : testNegated? operator = some negated)
      (hright : literalTest? negated right = some op) (hp : K.expr left p) :
    ExprForm operators K (.binary left operator right span) (.call (.core op) [p] false span)
  | binary {left right : Expr} {operator : String} {span : Span} {op : Operator} {p q : Plan}
      (htest : testNegated? operator = none)
      (hoperator : operators.resolveBinary? operator = some op) (harity : op.arity.accepts 2)
      (hp : K.expr left p) (hq : K.expr right q) :
    ExprForm operators K (.binary left operator right span) (.call op [p, q] false span)
  | negation {operand : Expr} {span : Span} {p : Plan} (hp : K.expr operand p) :
    ExprForm operators K (.negation operand span) (.call (.core .not) [p] false span)
  | memberOfItems {left right : Expr} {negated : Bool} {span : Span} {p q : Plan}
      (hright : ∀ query, right ≠ .subquery query) (hp : K.expr left p) (hq : K.expr right q) :
    ExprForm operators K (.membership left right negated span)
      (.call (.core (membershipOperator negated)) [p, q] false span)
  /-- A subquery on the right of IN stands for its rows. -/
  | memberOfQuery {left : Expr} {query : Subquery} {negated : Bool} {span : Span} {p q : Plan}
      (hp : K.expr left p) (hq : K.select query.select q) :
    ExprForm operators K (.membership left (.subquery query) negated span)
      (.call (.core (membershipOperator negated)) [p, q] false span)
  | between {operand low high : Expr} {negated : Bool} {span : Span} {p q r : Plan}
      (hp : K.expr operand p) (hq : K.expr low q) (hr : K.expr high r) :
    ExprForm operators K (.between operand low high negated span)
      (.call (.core (rangeOperator negated)) [p, q, r] false span)
  | list {items : List Expr} {span : Span} {plans : List Plan}
      (hitems : List.Forall₂ K.expr items plans) :
    ExprForm operators K (.list items span) (.list plans span)
  | function {name : String} {arguments : List Expr} {span : Span} {operands : List Plan}
      (harity : (operators.resolveFunction name).arity.accepts arguments.length)
      (hoperands : List.Forall₂ K.expr arguments operands) :
    ExprForm operators K (.function name arguments span)
      (.call (operators.resolveFunction name) operands false span)
  | aggregation {a : Aggregation} {p : Plan} (h : AggregateForm K a p) :
    ExprForm operators K (.aggregation a) p
  | subquery {query : Subquery} {p : Plan} (hp : K.select query.select p) :
    ExprForm operators K (.subquery query) (.call (.core .scalarQuery) [p] false query.span)
  | existence {query : Subquery} {span : Span} {p : Plan} (hp : K.select query.select p) :
    ExprForm operators K (.existence query false span)
      (.call (.core .existsQuery) [p] false span)
  | absence {query : Subquery} {span : Span} {p : Plan} (hp : K.select query.select p) :
    ExprForm operators K (.existence query true span)
      (.call (.core .not) [.call (.core .existsQuery) [p] false span] false span)
  | caseWhen {operand otherwise : Option Expr} {whens thens : List Expr} {span : Span}
      {plans : List Plan} {last : Plan} (hsome : whens ≠ [])
      (hlength : whens.length = thens.length)
      (hparts : List.Forall₂ K.expr (operand.toList ++ interleaved whens thens) plans)
      (hlast : OtherwiseForm K otherwise last) :
    ExprForm operators K (.caseWhen operand whens thens otherwise span)
      (.call (.core (caseOperator operand)) (plans ++ [last]) false span)

/-! ## Select-list items -/

/-- The alias derived for an item at a position. -/
def CompilerSettings.derivedAlias? (settings : CompilerSettings) (ordinal : Nat) :
    Option String :=
  if settings.deriveAliases then some (settings.aliasStem ++ ordinal.repr) else none

/-- The plan of a select-list item at the position `ordinal`. -/
inductive ItemForm (settings : CompilerSettings) (K : PartSpec) (ordinal : Nat) :
    Projection → Plan → Prop
  | column (c : Column) (aliasName : Option String) (span : Span) :
    ItemForm settings K ordinal (.column c aliasName span)
      ((Plan.identifier c.qualifiedName c.span).titled aliasName span)
  | expression {x : Expr} {aliasName : Option String} {span : Span} {p : Plan}
      (hp : K.expr x p) :
    ItemForm settings K ordinal (.expression x aliasName span)
      (p.titled (aliasName.or (settings.derivedAlias? ordinal)) span)
  | aggregation {a : Aggregation} {aliasName : Option String} {span : Span} {p : Plan}
      (hp : AggregateForm K a p) :
    ItemForm settings K ordinal (.aggregation a aliasName span)
      (p.titled (aliasName.or (settings.derivedAlias? ordinal)) span)
  | shorthand (owner : Option String) (span : Span) :
    ItemForm settings K ordinal (.shorthand owner span) (.star owner span)
  | subquery {query : Subquery} {aliasName : Option String} {span : Span} {p : Plan}
      (hp : K.select query.select p) :
    ItemForm settings K ordinal (.subquery query aliasName span)
      ((Plan.call (.core .scalarQuery) [p] false query.span).titled
        (aliasName.or (settings.derivedAlias? ordinal)) span)

/-- The plans of the items of a select list, the first one at the position `ordinal`. -/
inductive ItemsForm (K : PartSpec) : Nat → List Projection → List Plan → Prop
  | nil (ordinal : Nat) : ItemsForm K ordinal [] []
  | cons {ordinal : Nat} {p : Projection} {ps : List Projection} {plan : Plan}
      {plans : List Plan} (hp : K.item ordinal p plan) (hps : ItemsForm K (ordinal + 1) ps plans) :
    ItemsForm K ordinal (p :: ps) (plan :: plans)

/-! ## Tables -/

/-- What the rows of a join are matched by. -/
inductive JoinForm (K : PartSpec) : Option Expr → List Column → JoinCondition → Prop
  | condition {x : Expr} {columns : List Column} {p : Plan} (hp : K.expr x p) :
    JoinForm K (some x) columns (.condition p)
  | columns {columns : List Column} (h : columns ≠ []) :
    JoinForm K none columns (.columns (columns.map Column.name))
  | none : JoinForm K none [] .none

/-- The plan of a table. -/
inductive TableForm (K : PartSpec) : Table → Plan → Prop
  | simple (t : SimpleTable) :
    TableForm K (.simple t) ((Plan.scan t.qualifiedName t.span).titled t.aliasName t.span)
  | join {left right : Table} {type : JoinType} {natural : Bool} {condition : Option Expr}
      {columns : List Column} {span : Span} {p q : Plan} {matched : JoinCondition}
      (hdefect : joinDefect? type natural condition.isSome (!columns.isEmpty) = none)
      (hp : K.table left p) (hq : K.table right q)
      (hmatched : JoinForm K condition columns matched) :
    TableForm K (.join left right type natural condition columns span)
      (.join p q type natural matched)
  | derived {query : Subquery} {aliasName : Option String} {span : Span} {p : Plan}
      (hlist : query.select.projections.isSome) (hp : K.select query.select p) :
    TableForm K (.subquery query aliasName span) (.aliased p aliasName span)
  /-- A SELECT without a select list stands for its source. -/
  | explicit {query : Subquery} {aliasName : Option String} {span : Span} {table : Table}
      {p : Plan} (hlist : query.select.projections = none)
      (hsource : query.select.source = some table) (hp : K.table table p) :
    TableForm K (.subquery query aliasName span) (.aliased (.explicitTable p) aliasName span)

/-! ## SELECTs -/

/-- The key of a sort or grouping item. -/
inductive KeyForm (K : PartSpec) : OrderItem → Plan → Prop
  | column (c : Column) (direction : Direction) (nulls : Option NullsOrder) (span : Span) :
    KeyForm K (.column c direction nulls span) (.identifier c.qualifiedName c.span)
  | expression {x : Expr} {direction : Direction} {nulls : Option NullsOrder} {span : Span}
      {p : Plan} (hp : K.expr x p) : KeyForm K (.expression x direction nulls span) p
  | ordinal {index : UInt64} {direction : Direction} {nulls : Option NullsOrder} {span : Span}
      {p : Plan} (hp : countLiteral? index span = some p) :
    KeyForm K (.ordinal index direction nulls span) p

/-- A key in its direction. -/
def Plan.inDirection (key : Plan) (direction : Direction) (span : Span) : Plan :=
  match direction with
  | .descending => .call (.core .descending) [key] false span
  | .ascending => key

/-- A key with the place of nulls. -/
def Plan.withNulls (key : Plan) (nulls : Option NullsOrder) : Plan :=
  match nulls with
  | some .first => .call (.core .nullsFirst) [key] false .zero
  | some .last => .call (.core .nullsLast) [key] false .zero
  | none => key

/-- The plan of a sort item. -/
inductive SortForm (K : PartSpec) : OrderItem → Plan → Prop
  | key {item : OrderItem} {p : Plan} (hp : KeyForm K item p) :
    SortForm K item ((p.inDirection item.direction item.span).withNulls item.nulls)

/-- The plan of a value of LIMIT or OFFSET. -/
inductive PageForm : PageValue → Plan → Prop
  | number {value : UInt64} {span : Span} {p : Plan} (hp : countLiteral? value span = some p) :
    PageForm (.number value span) p
  | parameter (index : UInt64) (span : Span) :
    PageForm (.parameter index span) (.parameter index span)

/-- The source of a SELECT; without FROM it is a single empty row. -/
inductive SourceForm (K : PartSpec) : Option Table → Plan → Prop
  | none : SourceForm K none .singleRow
  | some {table : Table} {p : Plan} (hp : K.table table p) : SourceForm K (some table) p

/-- What the clauses of a SELECT convert to. -/
structure PartsForm (K : PartSpec) (s : Select) (parts : SelectParts) : Prop where
  source : SourceForm K s.source parts.source
  condition : Option.Rel (fun c p => K.expr c.expr p) s.condition parts.condition
  groupBy : Option.Rel
    (fun (c : OrderClause) keys => c.items ≠ [] ∧ List.Forall₂ (KeyForm K) c.items keys)
    s.groupBy parts.groupBy
  having : Option.Rel (fun c p => K.expr c.expr p) s.having parts.having
  projections : Option.Rel
    (fun (l : SelectList) r => l.items ≠ [] ∧ ItemsForm K 0 l.items r.1 ∧ r.2 = l.distinct)
    s.projections parts.projections
  orderBy : ∃ keys, parts.orderBy = keys.getD [] ∧ Option.Rel
    (fun (c : OrderClause) keys => c.items ≠ [] ∧ List.Forall₂ (SortForm K) c.items keys)
    s.orderBy keys
  offset : Option.Rel PageForm (s.limit.bind Limit.offset) parts.offset
  fetch : Option.Rel PageForm (s.limit.bind Limit.rowCount) parts.fetch
  combined : Option.Rel
    (fun (c : Combine) r => r.1 = c.type ∧ K.select c.query.select r.2) s.combine parts.combined

/-- The plan of a SELECT. -/
inductive SelectForm (K : PartSpec) : Select → Plan → Prop
  | parts {s : Select} {parts : SelectParts} (h : PartsForm K s parts) :
    SelectForm K s parts.plan

/-! ## Statements -/

/-- The names of columns. -/
def columnPlans (columns : List Column) : List Plan :=
  columns.map fun c => .identifier c.qualifiedName c.span

/-- The columns and the values of a SET list. -/
inductive AssignmentsForm (K : PartSpec) : List Assignment → List Plan → List Plan → Prop
  | nil : AssignmentsForm K [] [] []
  | cons {a : Assignment} {as : List Assignment} {c : Column} {value : Plan}
      {names values : List Plan} (hcolumns : a.columns = [c]) (hvalue : K.expr a.value value)
      (has : AssignmentsForm K as names values) :
    AssignmentsForm K (a :: as) (.identifier c.qualifiedName c.span :: names) (value :: values)

/-- The columns an INSERT fills and the rows it takes. -/
inductive InsertForm (K : PartSpec) (s : Insert) : List Plan → Plan → Prop
  | set {set : SetClause} {names values : List Plan} (hset : s.set = some set)
      (hcolumns : s.columns = []) (h : AssignmentsForm K set.assignments names values) :
    InsertForm K s names (.values [values])
  | query {query : Subquery} {p : Plan} (hset : s.set = none) (hquery : s.query = some query)
      (hp : K.select query.select p) : InsertForm K s (columnPlans s.columns) p
  | rows {rows : List (List Plan)} (hset : s.set = none) (hquery : s.query = none)
      (hrows : List.Forall₂ (fun (row : ValuesRow) values =>
        row.values.length = s.width ∧ List.Forall₂ K.expr row.values values) s.rows rows) :
    InsertForm K s (columnPlans s.columns) (.values rows)

/-- An INSERT with one source that has a SET list has neither a query nor rows. -/
theorem Insert.only_set {x : Insert} {set : SetClause} (hcount : x.sourceCount = 1)
    (hset : x.set = some set) : x.query = none ∧ x.rows = [] := by
  unfold sourceCount at hcount
  cases hquery : x.query <;> cases hrows : x.rows <;> simp [hset, hquery, hrows] at hcount ⊢

/-- An INSERT with one source that has a query has no rows. -/
theorem Insert.only_query {x : Insert} {query : Subquery} (hcount : x.sourceCount = 1)
    (hquery : x.query = some query) : x.rows = [] := by
  unfold sourceCount at hcount
  cases hrows : x.rows <;> simp [hquery, hrows] at hcount ⊢

/-- The plan of a statement. -/
inductive StatementForm (K : PartSpec) : Statement → Plan → Prop
  | select {s : Select} {p : Plan} (h : SelectForm K s p) : StatementForm K (.select s) p
  | insert {s : Insert} {names : List Plan} {rows : Plan} (hcount : s.sourceCount = 1)
      (h : InsertForm K s names rows) :
    StatementForm K (.insert s)
      (.modify .insert (.scan s.table.qualifiedName s.table.span) names (some rows) [] none)
  | update {s : Update} {p : Plan} {names values : List Plan} {filter : Option Plan}
      (horder : s.orderBy = none) (hlimit : s.limit = none) (hp : K.table s.table p)
      (hset : AssignmentsForm K s.set.assignments names values) (hsome : names ≠ [])
      (hfilter : Option.Rel (fun c p => K.expr c.expr p) s.condition filter) :
    StatementForm K (.update s) (.modify .update p names none values filter)
  | delete {s : Delete} {p : Plan} {filter : Option Plan} (horder : s.orderBy = none)
      (hlimit : s.limit = none) (hp : K.table s.table p)
      (hfilter : Option.Rel (fun c p => K.expr c.expr p) s.condition filter) :
    StatementForm K (.delete s) (.modify .delete p [] none [] filter)

end SqlAlgebra
