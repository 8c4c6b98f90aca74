import SqlAlgebra.Proofs.Inversion
import SqlAlgebra.Proofs.Resolution

/-!
# What a statement refers to

A statement speaks of things that it does not contain: tables, the values bound to its
parameters, and functions without a fixed meaning. Each such mention is a `Reference`.
`Statement.references` collects them from the syntax and `Plan.references` from the nodes of a
plan, and the two lists are the same (`Compiler.tryConvert_references`): a conversion neither
loses a reference nor makes one up, nor does it take one twice. In particular this is so for
the parameters and for the tables alone (`Compiler.tryConvert_parameters`,
`Compiler.tryConvert_scannedTables`).

There is one exception, by which two readings of the syntax differ. Of a derived table without
a select list, `(TABLE t WHERE …) AS x`, only the source is converted. The references of the
other clauses belong to the `whole` reading and not to the one that plans agree with.
-/

namespace SqlAlgebra

open Conversion

/-- A mention of something that is neither in a statement nor in its plan. -/
inductive Reference
  | table (name : List String)
  /-- The value bound to a positional marker. -/
  | parameter (index : UInt64)
  /-- A function without a fixed meaning. -/
  | function (name : String)
deriving DecidableEq, Repr

/-- The function an operator refers to. Only functions without a fixed meaning are looked up. -/
def Operator.reference? : Operator → Option Reference
  | .core _ | .builtin _ => none
  | .function name => some (.function name)

@[simp] theorem Operator.reference?_core (op : CoreOperator) : (core op).reference? = none := rfl

/-! ## References of plans -/

namespace Plan

/-- What a single node refers to. -/
def reference? : Plan → Option Reference
  | scan table _ => some (.table table)
  | parameter index _ => some (.parameter index)
  | call op _ _ _ => op.reference?
  | _ => none

/-- The references of a plan, in the order of its nodes. -/
def references (plan : Plan) : List Reference :=
  plan.walk.filterMap reference?

/-- The nodes right below a node, in the order of `walk`. -/
def children : Plan → List Plan
  | scan .. | identifier .. | literal .. | parameter .. => []
  | project input exprs _ => input :: exprs
  | filter input condition => [input, condition]
  | join left right _ _ (.condition condition) => [left, right, condition]
  | join left right _ _ _ => [left, right]
  | setOp _ _ left right => [left, right]
  | aggregate input groupBy => input :: groupBy
  | sort input orderBy offset fetch => input :: orderBy ++ offset.toList ++ fetch.toList
  | values rows => rows.flatten
  | modify _ target columns source expressions condition =>
    target :: columns ++ source.toList ++ expressions ++ condition.toList
  | call _ operands _ _ => operands
  | list items _ => items

/-- The sides of a join are among its children, whatever its condition. -/
theorem mem_children_join (left right : Plan) (type : JoinType) (natural : Bool)
    (matched : JoinCondition) :
    left ∈ (join left right type natural matched).children ∧
      right ∈ (join left right type natural matched).children := by
  cases matched <;> simp [children]

theorem walkAll_eq : ∀ plans : List Plan, walkAll plans = plans.flatMap walk
  | [] => rfl
  | plan :: plans => by rw [walkAll, walkAll_eq plans, List.flatMap_cons]

theorem walkRows_eq : ∀ rows : List (List Plan), walkRows rows = rows.flatten.flatMap walk
  | [] => rfl
  | row :: rows => by
    rw [walkRows, walkRows_eq rows, walkAll_eq, List.flatten_cons, List.flatMap_append]

theorem walkOption_eq (o : Option Plan) : walkOption o = o.toList.flatMap walk := by
  cases o <;> simp [walkOption]

/-- A walk lists a node and then the walks of its children. -/
theorem walk_eq (plan : Plan) : plan.walk = plan :: plan.children.flatMap walk := by
  cases plan with
  | join left right type natural condition =>
    cases condition <;> simp [walk, children, walkCondition]
  | _ => simp [walk, children, walkAll_eq, walkRows_eq, walkOption_eq]

/-- The references of a plan are that of its root, followed by those of its children. -/
theorem references_eq (plan : Plan) :
    plan.references = plan.reference?.toList ++ plan.children.flatMap references := by
  unfold references
  rw [walk_eq, List.filterMap_cons, List.filterMap_flatMap]
  cases plan.reference? <;> rfl

end Plan

/-- The references of a join condition. -/
def JoinCondition.references : JoinCondition → List Reference
  | .condition plan => plan.references
  | .none | .columns _ => []

namespace Plan

section Nodes

variable (p q : Plan) (ps : List Plan) (span : Span)

@[simp] theorem references_scan (table : List String) :
    (scan table span).references = [.table table] := rfl

@[simp] theorem references_identifier (names : List String) :
    (identifier names span).references = [] := rfl

@[simp] theorem references_literal (value : Literal) : (literal value span).references = [] := rfl

@[simp] theorem references_parameter (index : UInt64) :
    (parameter index span).references = [.parameter index] := rfl

@[simp] theorem references_list : (list ps span).references = ps.flatMap references :=
  references_eq _

/-- A call refers to its function, if that has no fixed meaning, and to what its operands refer
to. -/
@[simp] theorem references_call (op : Operator) (distinct : Bool) :
    (call op ps distinct span).references = op.reference?.toList ++ ps.flatMap references :=
  references_eq _

@[simp] theorem references_project (distinct : Bool) :
    (project p ps distinct).references = p.references ++ ps.flatMap references :=
  references_eq _

@[simp] theorem references_filter : (filter p q).references = p.references ++ q.references := by
  simp [references_eq (filter p q), reference?, children]

/-- A join refers to what its sides and its condition refer to. -/
@[simp] theorem references_join (type : JoinType) (natural : Bool) (c : JoinCondition) :
    (join p q type natural c).references = p.references ++ q.references ++ c.references := by
  cases c <;> simp [references_eq (join ..), reference?, children, JoinCondition.references]

@[simp] theorem references_setOp (operation : SetOperation) (all : Bool) :
    (setOp operation all p q).references = p.references ++ q.references := by
  simp [references_eq (setOp operation all p q), reference?, children]

@[simp] theorem references_aggregate :
    (aggregate p ps).references = p.references ++ ps.flatMap references :=
  references_eq _

/-- Order and paging refer to what is below them and to what their keys and numbers refer to. -/
@[simp] theorem references_sort (offset fetch : Option Plan) :
    (sort p ps offset fetch).references = p.references ++ ps.flatMap references ++
      offset.toList.flatMap references ++ fetch.toList.flatMap references := by
  simp [references_eq (sort p ps offset fetch), reference?, children]

@[simp] theorem references_values (rows : List (List Plan)) :
    (values rows).references = rows.flatMap fun row => row.flatMap references := by
  rw [references_eq, children, ← List.flatMap_id, List.flatMap_assoc]
  rfl

/-- A modification refers to its target, its columns, its source, its expressions and its condition,
in this order. -/
@[simp] theorem references_modify (operation : Modification) (columns expressions : List Plan)
    (source condition : Option Plan) :
    (modify operation p columns source expressions condition).references =
      p.references ++ columns.flatMap references ++ source.toList.flatMap references ++
        expressions.flatMap references ++ condition.toList.flatMap references := by
  simp [references_eq (modify operation p columns source expressions condition), reference?,
    children]

@[simp] theorem references_star (owner : Option String) : (star owner span).references = [] := rfl

@[simp] theorem references_aliased (name : Option String) :
    (aliased p name span).references = p.references := by
  cases name <;> simp [aliased, named]

@[simp] theorem references_explicitTable : (explicitTable p).references = p.references := by
  simp [explicitTable]

@[simp] theorem references_titled (name : Option String) :
    (p.titled name span).references = p.references := by
  cases name <;> simp [titled]

@[simp] theorem references_inDirection (direction : Direction) :
    (p.inDirection direction span).references = p.references := by
  cases direction <;> simp [inDirection]

@[simp] theorem references_withNulls (nulls : Option NullsOrder) :
    (p.withNulls nulls).references = p.references := by
  rcases nulls with _ | _ | _ <;> simp [withNulls]

end Nodes

end Plan

/-! ## References of segments

Collected in the order in which a plan lists them, which is not the order of the text: a
SELECT reads its source first, and its order and page come last. -/

/-- The reference of a value of LIMIT or OFFSET. -/
def PageValue.references : PageValue → List Reference
  | .number .. => []
  | .parameter index _ => [.parameter index]

/-- The references of a LIMIT clause. -/
def Limit.references (limit : Limit) : List Reference :=
  limit.offset.toList.flatMap PageValue.references ++
    limit.rowCount.toList.flatMap PageValue.references

mutual

/-- The references of an expression. -/
def Expr.references (whole : Bool) : Expr → List Reference
  | .column _ | .literal .. | .common .. => []
  | .parameter index _ => [.parameter index]
  | .binary left _ right _ => left.references whole ++ right.references whole
  | .negation operand _ => operand.references whole
  | .membership left right _ _ => left.references whole ++ right.references whole
  | .between operand low high _ _ =>
    operand.references whole ++ low.references whole ++ high.references whole
  | .list items _ => (eachReferences whole items).flatten
  | .function name arguments _ =>
    (OperatorTable.standard.resolveFunction name).reference?.toList ++
      (eachReferences whole arguments).flatten
  | .aggregation call => call.references whole
  | .subquery query => query.references whole
  | .existence query _ _ => query.references whole
  | .caseWhen operand whens thens otherwise _ =>
    branchReferences whole operand ++
      inTurns (eachReferences whole whens) (eachReferences whole thens) ++
      branchReferences whole otherwise

/-- The references of each of some expressions. -/
def eachReferences (whole : Bool) : List Expr → List (List Reference)
  | [] => []
  | x :: xs => x.references whole :: eachReferences whole xs

/-- The references of an optional expression. -/
def branchReferences (whole : Bool) : Option Expr → List Reference
  | none => []
  | some x => x.references whole

/-- The references of an aggregate call. -/
def Aggregation.references (whole : Bool) : Aggregation → List Reference
  | ⟨_, _, arguments, _⟩ => (eachReferences whole arguments).flatten

/-- The references of a subquery. -/
def Subquery.references (whole : Bool) : Subquery → List Reference
  | ⟨select, _⟩ => select.references whole

/-- The references of a SELECT. -/
def Select.references (whole : Bool) : Select → List Reference
  | ⟨projections, source, condition, groupBy, having, orderBy, limit, combine, _⟩ =>
    sourceReferences whole source ++ conditionReferences whole condition ++
      orderReferences whole groupBy ++ conditionReferences whole having ++
      listReferences whole projections ++ combineReferences whole combine ++
      orderReferences whole orderBy ++ limit.toList.flatMap Limit.references

/-- The references of the source of a subquery. -/
def Subquery.sourceReferences (whole : Bool) : Subquery → List Reference
  | ⟨⟨_, source, _, _, _, _, _, _, _⟩, _⟩ => SqlAlgebra.sourceReferences whole source

/-- The references of a FROM clause. -/
def sourceReferences (whole : Bool) : Option Table → List Reference
  | none => []
  | some table => table.references whole

/-- The references of a WHERE or HAVING clause. -/
def conditionReferences (whole : Bool) : Option SqlAlgebra.Condition → List Reference
  | none => []
  | some ⟨x, _⟩ => x.references whole

/-- The references of an ORDER BY or GROUP BY clause. -/
def orderReferences (whole : Bool) : Option OrderClause → List Reference
  | none => []
  | some ⟨items, _⟩ => keyReferences whole items

/-- The references of sort or grouping items. -/
def keyReferences (whole : Bool) : List OrderItem → List Reference
  | [] => []
  | item :: items => item.references whole ++ keyReferences whole items

/-- The references of a sort or grouping item. -/
def OrderItem.references (whole : Bool) : OrderItem → List Reference
  | .expression x _ _ _ => x.references whole
  | .column .. | .ordinal .. => []

/-- The references of a select list. -/
def listReferences (whole : Bool) : Option SelectList → List Reference
  | none => []
  | some ⟨_, items, _⟩ => itemReferences whole items

/-- The references of the items of a select list. -/
def itemReferences (whole : Bool) : List Projection → List Reference
  | [] => []
  | item :: items => item.references whole ++ itemReferences whole items

/-- The references of an item of a select list. -/
def Projection.references (whole : Bool) : Projection → List Reference
  | .column .. | .shorthand .. => []
  | .expression x _ _ => x.references whole
  | .aggregation call _ _ => call.references whole
  | .subquery query _ _ => query.references whole

/-- The references of the right side of a set operation. -/
def combineReferences (whole : Bool) : Option Combine → List Reference
  | none => []
  | some ⟨_, query, _⟩ => query.references whole

/-- The references of a table. Unless the `whole` of it is read, a derived table without a
select list has those of its source only. -/
def Table.references (whole : Bool) : Table → List Reference
  | .simple t => [.table t.qualifiedName]
  | .join left right _ _ condition _ _ =>
    left.references whole ++ right.references whole ++ branchReferences whole condition
  | .subquery query _ _ =>
    if whole || query.select.projections.isSome then query.references whole
    else query.sourceReferences whole
  | .deleteMulti targets relation _ =>
    targets.map (.table ·.qualifiedName) ++ relation.references whole

end

/-- The references of the values of a SET list. -/
def assignmentReferences (whole : Bool) (assignments : List Assignment) : List Reference :=
  assignments.flatMap fun a => a.value.references whole

/-- The references of a statement. -/
def Statement.references (whole : Bool) : Statement → List Reference
  | .select s => s.references whole
  | .insert s =>
    [.table s.table.qualifiedName] ++
      (s.rows.flatMap fun row => row.values.flatMap (Expr.references whole)) ++
      (s.set.toList.flatMap fun set => assignmentReferences whole set.assignments) ++
      s.query.toList.flatMap (Subquery.references whole)
  | .update s =>
    s.table.references whole ++ assignmentReferences whole s.set.assignments ++
      conditionReferences whole s.condition ++ orderReferences whole s.orderBy ++
      s.limit.toList.flatMap Limit.references
  | .delete s =>
    s.table.references whole ++ conditionReferences whole s.condition ++
      orderReferences whole s.orderBy ++ s.limit.toList.flatMap Limit.references

/-! ## Forms carry references over -/

/-- A plan has the references of the segment it is the plan of. -/
def PartSpec.references : PartSpec where
  expr x p := p.references = x.references false
  table x p := p.references = x.references false
  select x p := p.references = x.references false
  item _ x p := p.references = x.references false

section Lifting

variable {α β γ : Type} {R : α → β → Prop} {f : α → List γ} {g : β → List γ}

/-- Two lists that are related one by one have the same references if related members have. -/
theorem flatMap_eq_of_forall₂ {as : List α} {bs : List β} (h : List.Forall₂ R as bs)
    (hR : ∀ a b, R a b → g b = f a) : bs.flatMap g = as.flatMap f := by
  induction h with
  | nil => rfl
  | cons hab _ ih => rw [List.flatMap_cons, List.flatMap_cons, hR _ _ hab, ih]

/-- Two optional parts that are related have the same references if related parts have. -/
theorem flatMap_toList_eq_of_rel {x : Option α} {y : Option β} (h : Option.Rel R x y)
    (hR : ∀ a b, R a b → g b = f a) : y.toList.flatMap g = x.toList.flatMap f := by
  cases h with
  | none => rfl
  | some hab =>
    rw [Option.toList_some, Option.toList_some, List.flatMap_singleton, List.flatMap_singleton,
      hR _ _ hab]

end Lifting

section Collecting

variable (whole : Bool)

theorem eachReferences_eq : ∀ xs : List Expr,
    eachReferences whole xs = xs.map (Expr.references whole)
  | [] => rfl
  | x :: xs => by rw [eachReferences, eachReferences_eq xs, List.map_cons]

theorem flatten_eachReferences (xs : List Expr) :
    (eachReferences whole xs).flatten = xs.flatMap (Expr.references whole) := by
  rw [eachReferences_eq, List.flatMap_def]

theorem branchReferences_eq (o : Option Expr) :
    branchReferences whole o = o.toList.flatMap (Expr.references whole) := by
  cases o <;> simp [branchReferences]

theorem keyReferences_eq : ∀ items : List OrderItem,
    keyReferences whole items = items.flatMap (OrderItem.references whole)
  | [] => rfl
  | item :: items => by rw [keyReferences, keyReferences_eq items, List.flatMap_cons]

theorem conditionReferences_eq (o : Option SqlAlgebra.Condition) :
    conditionReferences whole o = o.toList.flatMap fun c => c.expr.references whole := by
  rcases o with _ | ⟨x, span⟩ <;> simp [conditionReferences]

theorem orderReferences_eq (o : Option OrderClause) :
    orderReferences whole o =
      o.toList.flatMap fun c => c.items.flatMap (OrderItem.references whole) := by
  rcases o with _ | ⟨items, span⟩ <;> simp [orderReferences, keyReferences_eq]

theorem listReferences_eq (o : Option SelectList) :
    listReferences whole o = o.toList.flatMap fun l => itemReferences whole l.items := by
  rcases o with _ | ⟨distinct, items, span⟩ <;> simp [listReferences]

theorem Subquery.references_eq (query : Subquery) :
    query.references whole = query.select.references whole := by
  obtain ⟨select, span⟩ := query
  rw [references]

theorem combineReferences_eq (o : Option Combine) :
    combineReferences whole o = o.toList.flatMap fun c => c.query.select.references whole := by
  rcases o with _ | ⟨type, query, span⟩ <;> simp [combineReferences, Subquery.references_eq]

theorem Aggregation.references_eq (a : Aggregation) :
    a.references whole = a.arguments.flatMap (Expr.references whole) := by
  obtain ⟨function, distinct, arguments, span⟩ := a
  rw [references, flatten_eachReferences]

/-- A SELECT refers to what its clauses refer to, in the order in which they are composed. -/
theorem Select.references_eq (s : Select) :
    s.references whole = sourceReferences whole s.source ++
      conditionReferences whole s.condition ++ orderReferences whole s.groupBy ++
      conditionReferences whole s.having ++ listReferences whole s.projections ++
      combineReferences whole s.combine ++ orderReferences whole s.orderBy ++
      s.limit.toList.flatMap Limit.references := by
  obtain ⟨projections, source, condition, groupBy, having, orderBy, limit, combine, span⟩ := s
  rw [references]

/-- A derived table with a select list has the references of its SELECT. -/
theorem Table.references_derived {query : Subquery} (aliasName : Option String) (span : Span)
    (h : query.select.projections.isSome) :
    (Table.subquery query aliasName span).references whole = query.select.references whole := by
  rw [references, if_pos (by rw [h, Bool.or_true]), Subquery.references_eq]

/-- A derived table without a select list has the references of its source. -/
theorem Table.references_explicit {query : Subquery} (aliasName : Option String) (span : Span)
    (h : query.select.projections = none) :
    (Table.subquery query aliasName span).references false =
      sourceReferences false query.select.source := by
  rw [references, if_neg (by simp [h])]
  obtain ⟨⟨projections, source, condition, groupBy, having, orderBy, limit, combine, s⟩, t⟩ :=
    query
  rw [Subquery.sourceReferences]

end Collecting

/-- The standard binary operators refer to nothing. -/
theorem reference?_of_resolveBinary? {text : String} {op : Operator}
    (h : OperatorTable.standard.resolveBinary? text = some op) : op.reference? = none :=
  OperatorTable.of_resolveBinary?_standard (P := fun op => op.reference? = none) (by decide) h

/-- Plans of expressions refer to what the expressions refer to. -/
theorem references_of_forall₂ {xs : List Expr} {ps : List Plan}
    (h : List.Forall₂ PartSpec.references.expr xs ps) :
    ps.flatMap Plan.references = xs.flatMap (Expr.references false) :=
  flatMap_eq_of_forall₂ h fun _ _ hp => hp

/-- The plan of an aggregate call refers to what its arguments refer to. -/
theorem references_of_aggregateForm {a : Aggregation} {p : Plan}
    (h : AggregateForm .references a p) : p.references = a.references false := by
  rw [Aggregation.references_eq]
  cases h with
  | rows _ hnone => simp [hnone]
  | arguments _ _ hoperands =>
    simp [references_of_forall₂ hoperands]

theorem references_of_otherwiseForm {x : Option Expr} {p : Plan}
    (h : OtherwiseForm .references x p) : p.references = branchReferences false x := by
  cases h with
  | none => rfl
  | some hx => rw [hx, branchReferences]

/-- The plan of an expression refers to what the expression refers to. The literal that a test drops
has no references. -/
theorem references_of_exprForm {x : Expr} {p : Plan}
    (h : ExprForm .standard .references x p) : p.references = x.references false := by
  cases h with
  | column c => rfl
  | literal value span => rfl
  | parameter index span => rfl
  | test _ hright hp =>
    obtain ⟨value, span, rfl⟩ := eq_literal_of_literalTest? hright
    simp [Expr.references, hp.symm]
  | binary _ hoperator _ hp hq =>
    simp [Expr.references, reference?_of_resolveBinary? hoperator, hp.symm, hq.symm]
  | negation hp => simp [Expr.references, hp.symm]
  | memberOfItems _ hp hq => simp [Expr.references, hp.symm, hq.symm]
  | memberOfQuery hp hq => simp [Expr.references, Subquery.references_eq, hp.symm, hq.symm]
  | between hp hq hr => simp [Expr.references, hp.symm, hq.symm, hr.symm]
  | list hitems => simp [Expr.references, flatten_eachReferences, references_of_forall₂ hitems]
  | function _ hoperands =>
    simp [Expr.references, flatten_eachReferences, references_of_forall₂ hoperands]
  | aggregation ha => simp [Expr.references, references_of_aggregateForm ha]
  | subquery hp => simp [Expr.references, Subquery.references_eq, hp.symm]
  | existence hp => simp [Expr.references, Subquery.references_eq, hp.symm]
  | absence hp => simp [Expr.references, Subquery.references_eq, hp.symm]
  | caseWhen _ hlength hparts hlast =>
    have hplans := references_of_forall₂ hparts
    have hotherwise := references_of_otherwiseForm hlast
    simp only [List.flatMap_append] at hplans
    simp [Expr.references, eachReferences_eq, inTurns_map _ hlength, branchReferences_eq, hplans,
      hotherwise]

/-- The plan of an item refers to what the item refers to. -/
theorem references_of_itemForm {settings : CompilerSettings} {ordinal : Nat} {x : Projection}
    {p : Plan} (h : ItemForm settings .references ordinal x p) :
    p.references = x.references false := by
  cases h with
  | column c aliasName span => simp [Projection.references]
  | expression hp => simp [Projection.references, hp.symm]
  | aggregation hp => simp [Projection.references, references_of_aggregateForm hp]
  | shorthand owner span => rfl
  | subquery hp => simp [Projection.references, Subquery.references_eq, hp.symm]

/-- The plans of a select list refer to what its items refer to. -/
theorem references_of_itemsForm {ordinal : Nat} {xs : List Projection} {ps : List Plan}
    (h : ItemsForm .references ordinal xs ps) :
    ps.flatMap Plan.references = itemReferences false xs := by
  induction h with
  | nil _ => rfl
  | cons hp _ ih => rw [List.flatMap_cons, hp, ih, itemReferences]

/-- A join matches by what its condition refers to. -/
theorem references_of_joinForm {condition : Option Expr} {columns : List Column}
    {matched : JoinCondition} (h : JoinForm .references condition columns matched) :
    matched.references = branchReferences false condition := by
  cases h with
  | condition hp => rw [branchReferences, JoinCondition.references, hp]
  | columns _ => rfl
  | none => rfl

/-- The plan of a table refers to what the table refers to, apart from the clauses of a derived
table that are not converted. -/
theorem references_of_tableForm {x : Table} {p : Plan} (h : TableForm .references x p) :
    p.references = x.references false := by
  cases h with
  | simple t => simp [Table.references]
  | join _ hp hq hmatched =>
    have hcondition := references_of_joinForm hmatched
    simp [Table.references, hp.symm, hq.symm, hcondition.symm]
  | derived hlist hp => rw [Table.references_derived _ _ _ hlist, Plan.references_aliased, hp]
  | explicit hlist hsource hp =>
    rw [Table.references_explicit _ _ hlist, hsource, sourceReferences,
      Plan.references_aliased, Plan.references_explicitTable, hp]

theorem references_of_countLiteral? {n : UInt64} {span : Span} {p : Plan}
    (h : countLiteral? n span = some p) : p.references = [] := by
  unfold countLiteral? at h
  split at h
  · obtain rfl := Option.some.inj h
    rfl
  · cases h

theorem references_of_keyForm {item : OrderItem} {p : Plan} (h : KeyForm .references item p) :
    p.references = item.references false := by
  cases h with
  | column c _ _ _ => rfl
  | expression hp => rw [OrderItem.references, hp]
  | ordinal hp => rw [OrderItem.references, references_of_countLiteral? hp]

/-- The plan of an item of ORDER BY refers to what its key refers to. -/
theorem references_of_sortForm {item : OrderItem} {p : Plan} (h : SortForm .references item p) :
    p.references = item.references false := by
  cases h with
  | key hp =>
    rw [Plan.references_withNulls, Plan.references_inDirection, references_of_keyForm hp]

/-- The plan of a number of rows refers to its parameter, if it is one. -/
theorem references_of_pageForm {value : PageValue} {p : Plan} (h : PageForm value p) :
    p.references = value.references := by
  cases h with
  | number hp => rw [PageValue.references, references_of_countLiteral? hp]
  | parameter index span => rfl

/-- The plan of the source refers to the tables of the source, or to none. -/
theorem references_of_sourceForm {source : Option Table} {p : Plan}
    (h : SourceForm .references source p) : p.references = sourceReferences false source := by
  cases h with
  | none => rfl
  | some hp => rw [sourceReferences, hp]

theorem references_of_condition {c : Option SqlAlgebra.Condition} {o : Option Plan}
    (h : Option.Rel (fun c p => PartSpec.references.expr c.expr p) c o) :
    o.toList.flatMap Plan.references = conditionReferences false c := by
  rw [conditionReferences_eq]
  exact flatMap_toList_eq_of_rel h fun _ _ hp => hp

/-! ### Composing the clauses of a SELECT -/

namespace SelectParts

variable (p : Plan)

/-- The layer of WHERE refers to what is below it and then to its condition. -/
theorem references_filtered (condition : Option Plan) :
    (filtered condition p).references =
      p.references ++ condition.toList.flatMap Plan.references := by
  cases condition <;> simp [filtered]

theorem references_grouped (keys : Option (List Plan)) (having : Option Plan) :
    (grouped keys having p).references =
      p.references ++ keys.toList.flatMap fun ks => ks.flatMap Plan.references := by
  cases keys <;> cases having <;> simp [grouped]

theorem references_projected (projections : Option (List Plan × Bool)) :
    (projected projections p).references =
      p.references ++ projections.toList.flatMap fun r => r.1.flatMap Plan.references := by
  cases projections <;> simp [projected]

theorem references_combinedWith (combined : Option (CombineType × Plan)) :
    (combinedWith combined p).references =
      p.references ++ combined.toList.flatMap fun r => r.2.references := by
  cases combined <;> simp [combinedWith]

/-- The layer of ORDER BY and LIMIT refers to what is below it, then to its keys and to its
numbers. -/
theorem references_sorted (orderBy : List Plan) (offset fetch : Option Plan) :
    (sorted orderBy offset fetch p).references =
      p.references ++ orderBy.flatMap Plan.references ++
        offset.toList.flatMap Plan.references ++ fetch.toList.flatMap Plan.references := by
  unfold sorted
  split <;> simp

end SelectParts

theorem references_of_orderBy {x : Select} {parts : SelectParts}
    (h : PartsForm .references x parts) :
    parts.orderBy.flatMap Plan.references = orderReferences false x.orderBy := by
  obtain ⟨keys, hkeys, hrel⟩ := h.orderBy
  rw [hkeys, orderReferences_eq, ← flatMap_toList_eq_of_rel hrel fun _ _ hitems =>
    flatMap_eq_of_forall₂ hitems.2 fun _ _ => references_of_sortForm]
  cases keys <;> simp

theorem references_of_limit {x : Select} {parts : SelectParts}
    (h : PartsForm .references x parts) :
    parts.offset.toList.flatMap Plan.references ++ parts.fetch.toList.flatMap Plan.references =
      x.limit.toList.flatMap Limit.references := by
  rw [flatMap_toList_eq_of_rel h.offset fun _ _ => references_of_pageForm,
    flatMap_toList_eq_of_rel h.fetch fun _ _ => references_of_pageForm]
  cases x.limit <;> simp [Limit.references]

/-- The plan of a SELECT refers to what the SELECT refers to, layer by layer from the outside in. -/
theorem references_of_selectForm {x : Select} {p : Plan} (h : SelectForm .references x p) :
    p.references = x.references false := by
  obtain @⟨parts, hparts⟩ := h
  have hgroups : (parts.groupBy.toList.flatMap fun ks => ks.flatMap Plan.references) =
      orderReferences false x.groupBy := by
    rw [orderReferences_eq]
    exact flatMap_toList_eq_of_rel hparts.groupBy fun _ _ hkeys =>
      flatMap_eq_of_forall₂ hkeys.2 fun _ _ => references_of_keyForm
  have hlist : (parts.projections.toList.flatMap fun r => r.1.flatMap Plan.references) =
      listReferences false x.projections := by
    rw [listReferences_eq]
    exact flatMap_toList_eq_of_rel hparts.projections fun _ _ hl => references_of_itemsForm hl.2.1
  have hright : (parts.combined.toList.flatMap fun r => r.2.references) =
      combineReferences false x.combine := by
    rw [combineReferences_eq]
    exact flatMap_toList_eq_of_rel hparts.combined fun _ _ hr => hr.2
  rw [SelectParts.plan, SelectParts.references_sorted, SelectParts.references_combinedWith,
    SelectParts.references_projected, SelectParts.references_filtered,
    SelectParts.references_grouped, SelectParts.references_filtered, Select.references_eq,
    references_of_sourceForm hparts.source, references_of_condition hparts.condition, hgroups,
    references_of_condition hparts.having, hlist, hright, references_of_orderBy hparts,
    ← references_of_limit hparts]
  simp only [List.append_assoc]

/-! ### Statements -/

theorem references_columnPlans (columns : List Column) :
    (columnPlans columns).flatMap Plan.references = [] := by
  simp [columnPlans, List.flatMap_map]

/-- The plans of a SET list refer to what its values refer to. -/
theorem references_of_assignmentsForm {as : List Assignment} {names values : List Plan}
    (h : AssignmentsForm .references as names values) :
    names.flatMap Plan.references = [] ∧
      values.flatMap Plan.references = assignmentReferences false as := by
  induction h with
  | nil => exact ⟨rfl, rfl⟩
  | cons _ hvalue _ ih =>
    refine ⟨ih.1, ?_⟩
    rw [List.flatMap_cons, ih.2, hvalue, assignmentReferences, assignmentReferences,
      List.flatMap_cons]

/-- The plan of an INSERT refers to its table first, and then to its source. -/
theorem references_of_insertForm {x : Insert} {names : List Plan} {rows : Plan}
    (hcount : x.sourceCount = 1) (h : InsertForm .references x names rows) :
    .table x.table.qualifiedName :: (names.flatMap Plan.references ++ rows.references) =
      (Statement.insert x).references false := by
  cases h with
  | set hsome _ has =>
    obtain ⟨hnames, hvalues⟩ := references_of_assignmentsForm has
    obtain ⟨hnone, hrows⟩ := Insert.only_set hcount hsome
    simp [Statement.references, hsome, hrows, hnone, hnames, hvalues]
  | query hnone hsome hp =>
    have hrows := Insert.only_query hcount hsome
    simp [Statement.references, hnone, hsome, hrows, references_columnPlans,
      Subquery.references_eq, hp.symm]
  | rows hnone hnone' hrows =>
    have hvalues := flatMap_eq_of_forall₂ hrows fun _ _ hrow => references_of_forall₂ hrow.2
    simp [Statement.references, hnone, hnone', references_columnPlans, hvalues]

/-- The plan of a statement refers to what the statement refers to. -/
theorem references_of_statementForm {st : Statement} {p : Plan}
    (h : StatementForm .references st p) : p.references = st.references false := by
  cases h with
  | select hs => exact references_of_selectForm hs
  | insert hcount hi => simp [← references_of_insertForm hcount hi]
  | update horder hlimit hp has _ hfilter =>
    obtain ⟨hnames, hvalues⟩ := references_of_assignmentsForm has
    simp [Statement.references, horder, hlimit, orderReferences, hp.symm, hnames, hvalues,
      references_of_condition hfilter]
  | delete horder hlimit hp hfilter =>
    simp [Statement.references, horder, hlimit, orderReferences, hp.symm,
      references_of_condition hfilter]

/-! ## Parameters -/

/-- The index of the parameter that is referred to. -/
def Reference.parameter? : Reference → Option UInt64
  | .parameter index => some index
  | .table _ | .function _ => none

/-- The index of a node that stands for a parameter. -/
def Plan.parameter? : Plan → Option UInt64
  | parameter index _ => some index
  | _ => none

/-- The indices of the parameters of a plan, in the order of its nodes. -/
def Plan.parameters (plan : Plan) : List UInt64 :=
  plan.walk.filterMap parameter?

/-- The indices of the positional markers of a statement. -/
def Statement.markers (whole : Bool) (st : Statement) : List UInt64 :=
  (st.references whole).filterMap Reference.parameter?

theorem Plan.bind_reference? (plan : Plan) :
    plan.reference?.bind Reference.parameter? = plan.parameter? := by
  cases plan with
  | call op operands distinct span => cases op <;> rfl
  | _ => rfl

/-- The parameters of a plan are among its references. -/
theorem Plan.parameters_eq (plan : Plan) :
    plan.parameters = plan.references.filterMap Reference.parameter? := by
  rw [references, List.filterMap_filterMap, funext bind_reference?, parameters]

/-! ## Tables -/

/-- The dotted name of the table that is referred to. -/
def Reference.table? : Reference → Option String
  | .table name => some (".".intercalate name)
  | .parameter _ | .function _ => none

/-- The dotted names of the tables of a statement, in the order of its references. -/
def Statement.tables (st : Statement) : List String :=
  (st.references false).filterMap Reference.table?

theorem Plan.bind_reference?_table (plan : Plan) :
    plan.reference?.bind Reference.table? = plan.scannedTable? := by
  cases plan with
  | call op operands distinct span => cases op <;> rfl
  | _ => rfl

/-- The tables that a plan scans are among its references. -/
theorem Plan.scannedTables_eq (plan : Plan) :
    plan.scannedTables = plan.references.filterMap Reference.table? := by
  rw [references, List.filterMap_filterMap, funext bind_reference?_table, scannedTables]

/-! ## Conversions -/

/-- Plans that are built from parts with the right references have the right references. -/
theorem references_closed (settings : CompilerSettings) :
    PartSpec.references.Closed settings .standard where
  expr := references_of_exprForm
  table := references_of_tableForm
  select := references_of_selectForm
  item := references_of_itemForm

namespace Compiler

variable (settings : CompilerSettings)

/-- A plan has the references of its statement, each as often and in the same order. -/
theorem tryConvert_references {st : Statement} {plan : Plan}
    (h : (⟨settings, .standard⟩ : Compiler).tryConvert st = .ok (some plan)) :
    plan.references = st.references false := by
  obtain ⟨p, hp, hform⟩ := tryConvert_form (references_closed settings) h
  obtain rfl := Option.some.inj hp
  exact references_of_statementForm hform

/-- The parameters of a plan are the markers of its statement, but for the markers outside
the source of a derived table without a select list. -/
theorem tryConvert_parameters {st : Statement} {plan : Plan}
    (h : (⟨settings, .standard⟩ : Compiler).tryConvert st = .ok (some plan)) :
    plan.parameters = st.markers false := by
  rw [Plan.parameters_eq, tryConvert_references settings h, Statement.markers]

/-- In `SELECT ? FROM t WHERE a IN (?, ?) LIMIT ?` no marker is lost; WHERE comes first. -/
theorem tryConvert_parameters_limited : ∃ plan,
    ({} : Compiler).tryConvert (.select
      ⟨some ⟨false, [.expression (.parameter 0 .zero) none .zero], .zero⟩,
      some (.simple { name := "t" }),
      some ⟨.membership (.column { name := "a" })
        (.list [.parameter 1 .zero, .parameter 2 .zero] .zero) false .zero, .zero⟩,
      none, none, none, some ⟨none, some (.parameter 3 .zero), .zero⟩, none, .zero⟩) =
        .ok (some plan) ∧
    plan.parameters = [1, 2, 0, 3] :=
  ⟨_, (and_iff_left_of_imp fun h => (tryConvert_parameters {} h).trans rfl).2 rfl⟩

/-- `SELECT * FROM (TABLE t LIMIT ?) AS x`. -/
def derivedPage : Statement :=
  .select ⟨some ⟨false, [.shorthand none .zero], .zero⟩,
    some (.subquery ⟨⟨none, some (.simple { name := "t" }), none, none, none, none,
      some ⟨none, some (.parameter 0 .zero), .zero⟩, none, .zero⟩, .zero⟩ (some "x") .zero),
    none, none, none, none, none, none, .zero⟩

/-- The marker of `derivedPage` is lost. -/
theorem tryConvert_parameters_derivedPage : ∃ plan,
    ({} : Compiler).tryConvert derivedPage = .ok (some plan) ∧
    ¬ plan.parameters.Perm (derivedPage.markers true) := by
  refine ⟨_, rfl, ?_⟩
  decide

/-- Whether a statement has a plan can be found out by running the compiler. -/
theorem exists_tryConvert_eq {c : Compiler} {st : Statement}
    (h : (c.tryConvert st).toOption.join.isSome) :
    ∃ plan, c.tryConvert st = .ok (some plan) := by
  rcases hr : c.tryConvert st with e | _ | plan
  · rw [hr] at h
    cases h
  · rw [hr] at h
    cases h
  · exact ⟨plan, rfl⟩

/-- The tables that a plan scans are the tables of its statement: none is missed, none is scanned
twice for one mention, and they come in the same order. -/
theorem tryConvert_scannedTables {st : Statement} {plan : Plan}
    (h : (⟨settings, .standard⟩ : Compiler).tryConvert st = .ok (some plan)) :
    plan.scannedTables = st.tables := by
  rw [Plan.scannedTables_eq, tryConvert_references settings h, Statement.tables]

/-- `SELECT CASE (TABLE a) WHEN TRUE THEN (TABLE b) ELSE (TABLE c) END FROM s.d JOIN (TABLE e WHERE
(TABLE lost)) AS x ON (TABLE f) WHERE g IN (TABLE g) UNION (TABLE h) ORDER BY (TABLE i)`. -/
def tableInEachClause : Statement :=
  let bare (name : String) (condition : Option Condition) : Subquery :=
    ⟨⟨none, some (.simple { name }), condition, none, none, none, none, none, .zero⟩, .zero⟩
  let scalar (name : String) : Expr := .subquery (bare name none)
  .select {
    projections := some ⟨false, [.expression (.caseWhen (some (scalar "a"))
      [.literal (.boolean true) .zero] [scalar "b"] (some (scalar "c")) .zero) none .zero], .zero⟩
    source := some (.join (.simple { owner := some "s", name := "d" })
      (.subquery (bare "e" (some ⟨scalar "lost", .zero⟩)) (some "x") .zero) .inner false
      (some (scalar "f")) [] .zero)
    condition := some ⟨.membership (.column { name := "g" }) (scalar "g") false .zero, .zero⟩
    groupBy := none
    having := none
    orderBy := some ⟨[.expression (scalar "i") .descending none .zero], .zero⟩
    limit := none
    combine := some ⟨.union, bare "h" none, .zero⟩
    span := .zero }

/-- The source comes first and the select list after WHERE; the condition of the derived table is
not converted. -/
theorem tryConvert_scannedTables_eachClause : ∃ plan,
    ({} : Compiler).tryConvert tableInEachClause = .ok (some plan) ∧
    plan.scannedTables = ["s.d", "e", "f", "g", "a", "b", "c", "h", "i"] := by
  have hsome : (({} : Compiler).tryConvert tableInEachClause).toOption.join.isSome := by
    decide +kernel
  obtain ⟨plan, hplan⟩ := exists_tryConvert_eq hsome
  have htables : tableInEachClause.tables = ["s.d", "e", "f", "g", "a", "b", "c", "h", "i"] := by
    decide +kernel
  exact ⟨plan, hplan, (tryConvert_scannedTables {} hplan).trans htables⟩

end Compiler

end SqlAlgebra
