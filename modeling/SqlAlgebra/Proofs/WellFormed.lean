import SqlAlgebra.Conversion.Modification
import SqlAlgebra.Proofs.Form

/-!
# Well-formed segments

Which segments make sense, read off the segments alone. `Segment.visits` lists the parts that
a conversion descends into, in order. Not every part is among them: the literal on the right
of IS is looked at in passing, a name is taken as it is, and of a derived table without a
select list only the source counts. `Segment.sound` holds the checks made on a segment before
or after its parts.

From these two come `Segment.wellFormed`, that all segments visited are sound, and
`Segment.height`, how many segments the longest descent goes through. Neither knows of
settings or of a context.
-/

namespace SqlAlgebra

open Conversion

/-! ## Parts -/

/-- The parts of an expression. -/
def Expr.visits : Expr → List Segment
  | .column _ | .literal .. | .parameter .. | .common .. => []
  | .binary left operator right _ =>
    match testNegated? operator with
    | some _ => [.expression left]
    | none => [.expression left, .expression right]
  | .negation operand _ => [.expression operand]
  | .membership left (.subquery query) _ _ => [.expression left, .select query.select]
  | .membership left right _ _ => [.expression left, .expression right]
  | .between operand low high _ _ => [.expression operand, .expression low, .expression high]
  | .list items _ => items.map .expression
  | .function _ arguments _ => arguments.map .expression
  | .aggregation a => a.arguments.map .expression
  | .subquery query => [.select query.select]
  | .existence query _ _ => [.select query.select]
  | .caseWhen operand whens thens otherwise _ =>
    (operand.toList ++ interleaved whens thens ++ otherwise.toList).map .expression

/-- The parts of a select-list item. -/
def Projection.visits : Projection → List Segment
  | .column .. | .shorthand .. => []
  | .expression x _ _ => [.expression x]
  | .aggregation a _ _ => a.arguments.map .expression
  | .subquery query _ _ => [.select query.select]

/-- The parts of a table. Of a derived table without a select list only the source counts. -/
def Table.visits : Table → List Segment
  | .simple _ | .deleteMulti .. => []
  | .join left right _ _ condition _ _ =>
    [.table left, .table right] ++ condition.toList.map .expression
  | .subquery query _ _ =>
    match query.select.projections with
    | some _ => [.select query.select]
    | none => query.select.source.toList.map .table

/-- The part of a sort or grouping item. -/
def OrderItem.visits : OrderItem → List Segment
  | .expression x _ _ _ => [.expression x]
  | .column .. | .ordinal .. => []

/-- The parts of an ORDER BY or GROUP BY clause. -/
def orderVisits (clause : Option OrderClause) : List Segment :=
  clause.toList.flatMap fun c => c.items.flatMap OrderItem.visits

/-- The part of a WHERE or HAVING clause. -/
def conditionVisits (condition : Option SqlAlgebra.Condition) : List Segment :=
  condition.toList.map fun c => .expression c.expr

/-- The parts of a SELECT. -/
def Select.visits (s : Select) : List Segment :=
  s.source.toList.map .table ++ conditionVisits s.condition ++ orderVisits s.groupBy ++
    conditionVisits s.having ++
    (s.projections.toList.flatMap fun l => l.items.map .projection) ++ orderVisits s.orderBy ++
    s.combine.toList.map fun c => .select c.query.select

/-- The parts of a SET list. -/
def assignmentVisits (assignments : List Assignment) : List Segment :=
  assignments.map fun a => .expression a.value

/-- The parts of a statement. -/
def Statement.visits : Statement → List Segment
  | .select s => s.visits
  | .insert s =>
    (s.set.toList.flatMap fun set => assignmentVisits set.assignments) ++
      (s.query.toList.map fun query => .select query.select) ++
      s.rows.flatMap fun row => row.values.map .expression
  | .update s =>
    [.table s.table] ++ assignmentVisits s.set.assignments ++ conditionVisits s.condition
  | .delete s => [.table s.table] ++ conditionVisits s.condition

/-- The parts that a conversion descends into, in order. -/
def Segment.visits : Segment → List Segment
  | .table t => t.visits
  | .projection p => p.visits
  | .expression x => x.visits
  | .statement st => st.visits
  | .select q => q.visits

/-! ## Parts are smaller -/

/-- What is in two lists in turns is in one of them. -/
theorem mem_or_mem_of_mem_interleaved {x : Expr} :
    ∀ {whens thens : List Expr}, x ∈ interleaved whens thens → x ∈ whens ∨ x ∈ thens
  | [], _, h => by cases h
  | _ :: _, [], h => by cases h
  | w :: ws, t :: ts, h => by
    rw [interleaved, List.mem_cons, List.mem_cons] at h
    rcases h with rfl | rfl | h
    · exact .inl (List.mem_cons_self ..)
    · exact .inr (List.mem_cons_self ..)
    · exact (mem_or_mem_of_mem_interleaved h).imp (List.mem_cons_of_mem _) (List.mem_cons_of_mem _)

/-- An expression in a list is smaller than the list. -/
theorem sizeOf_mem_map_expression {p : Segment} {xs : List Expr}
    (h : p ∈ xs.map Segment.expression) : sizeOf p < 1 + sizeOf xs := by
  obtain ⟨x, hx, rfl⟩ := List.mem_map.1 h
  have := List.sizeOf_lt_of_mem hx
  rw [Segment.expression.sizeOf_spec]
  omega

theorem sizeOf_lt_of_mem_aggregation {p : Segment} {a : Aggregation}
    (h : p ∈ a.arguments.map Segment.expression) : sizeOf p < 1 + sizeOf a := by
  have := sizeOf_mem_map_expression h
  obtain ⟨function, distinct, arguments, span⟩ := a
  simp at *
  omega

theorem sizeOf_lt_subquery (query : Subquery) : sizeOf query.select < sizeOf query := by
  obtain ⟨select, span⟩ := query
  simp
  omega

/-- The parts of an expression are smaller than the expression. -/
theorem sizeOf_lt_of_mem_exprVisits {p : Segment} {x : Expr} (h : p ∈ x.visits) :
    sizeOf p < sizeOf (Segment.expression x) := by
  cases x with
  | column c => cases h
  | literal value span => cases h
  | parameter index span => cases h
  | common text span => cases h
  | binary left operator right span =>
    have hp : p = .expression left ∨ p = .expression right := by
      simp only [Expr.visits] at h
      split at h <;> simp_all
    rcases hp with rfl | rfl <;> simp <;> omega
  | negation operand span =>
    obtain rfl := List.mem_singleton.1 h
    simp
    omega
  | membership left right negated span =>
    cases right with
    | subquery query =>
      have := sizeOf_lt_subquery query
      rcases List.mem_pair.1 h with rfl | rfl <;> simp <;> omega
    | _ => rcases List.mem_pair.1 h with rfl | rfl <;> simp <;> omega
  | between operand low high negated span =>
    simp only [Expr.visits, List.mem_cons, List.not_mem_nil, or_false] at h
    rcases h with rfl | rfl | rfl <;> simp <;> omega
  | list items span =>
    have := sizeOf_mem_map_expression h
    simp
    omega
  | function name arguments span =>
    have := sizeOf_mem_map_expression h
    simp
    omega
  | aggregation a =>
    have := sizeOf_lt_of_mem_aggregation h
    simp
    omega
  | subquery query =>
    have := sizeOf_lt_subquery query
    obtain rfl := List.mem_singleton.1 h
    simp
    omega
  | existence query negated span =>
    have := sizeOf_lt_subquery query
    obtain rfl := List.mem_singleton.1 h
    simp
    omega
  | caseWhen operand whens thens otherwise span =>
    obtain ⟨y, hy, rfl⟩ := List.mem_map.1 h
    rw [List.mem_append, List.mem_append, Option.mem_toList, Option.mem_toList] at hy
    rcases hy with (rfl | hy) | rfl
    · simp
      omega
    · rcases mem_or_mem_of_mem_interleaved hy with hy | hy
      · have := List.sizeOf_lt_of_mem hy
        simp
        omega
      · have := List.sizeOf_lt_of_mem hy
        simp
        omega
    · simp
      omega

/-- The parts of an item are smaller than the item. -/
theorem sizeOf_lt_of_mem_projectionVisits {p : Segment} {x : Projection} (h : p ∈ x.visits) :
    sizeOf p < sizeOf (Segment.projection x) := by
  cases x with
  | column c aliasName span => cases h
  | shorthand owner span => cases h
  | expression x aliasName span =>
    obtain rfl := List.mem_singleton.1 h
    simp
    omega
  | aggregation a aliasName span =>
    have := sizeOf_lt_of_mem_aggregation h
    simp
    omega
  | subquery query aliasName span =>
    have := sizeOf_lt_subquery query
    obtain rfl := List.mem_singleton.1 h
    simp
    omega

/-- The parts of a table are smaller than the table. -/
theorem sizeOf_lt_of_mem_tableVisits {p : Segment} {x : Table} (h : p ∈ x.visits) :
    sizeOf p < sizeOf (Segment.table x) := by
  cases x with
  | simple t => cases h
  | deleteMulti targets relation span => cases h
  | join left right type natural condition columns span =>
    simp only [Table.visits, List.mem_append, List.mem_cons, List.not_mem_nil, or_false,
      List.mem_map, Option.mem_toList] at h
    rcases h with (rfl | rfl) | ⟨x, rfl, rfl⟩ <;> simp <;> omega
  | subquery query aliasName span =>
    obtain ⟨⟨projections, source, condition, groupBy, having, orderBy, limit, combine, s⟩, t⟩ :=
      query
    cases projections with
    | some l =>
      obtain rfl := List.mem_singleton.1 h
      simp
      omega
    | none =>
      obtain ⟨table, ht, rfl⟩ := List.mem_map.1 h
      obtain rfl := Option.mem_toList.1 ht
      simp
      omega

theorem sizeOf_lt_of_mem_conditionVisits {p : Segment} {c : Option SqlAlgebra.Condition}
    (h : p ∈ conditionVisits c) : sizeOf p < sizeOf c := by
  obtain ⟨⟨x, span⟩, hc, rfl⟩ := List.mem_map.1 h
  obtain rfl := Option.mem_toList.1 hc
  simp
  omega

theorem sizeOf_lt_of_mem_orderVisits {p : Segment} {c : Option OrderClause}
    (h : p ∈ orderVisits c) : sizeOf p < sizeOf c := by
  obtain ⟨⟨items, span⟩, hc, h⟩ := List.mem_flatMap.1 h
  obtain ⟨item, hitem, h⟩ := List.mem_flatMap.1 h
  have := List.sizeOf_lt_of_mem hitem
  obtain rfl := Option.mem_toList.1 hc
  cases item with
  | column c direction nulls span => cases h
  | ordinal index direction nulls span => cases h
  | expression x direction nulls span =>
    obtain rfl := List.mem_singleton.1 h
    simp at *
    omega

/-- The parts of a SELECT are smaller than the SELECT. -/
theorem sizeOf_lt_of_mem_selectVisits {p : Segment} {s : Select} (h : p ∈ s.visits) :
    sizeOf p < sizeOf (Segment.select s) := by
  obtain ⟨projections, source, condition, groupBy, having, orderBy, limit, combine, span⟩ := s
  simp only [Select.visits, List.mem_append] at h
  rcases h with (((((h | h) | h) | h) | h) | h) | h
  · obtain ⟨t, ht, rfl⟩ := List.mem_map.1 h
    obtain rfl := Option.mem_toList.1 ht
    simp
    omega
  · have := sizeOf_lt_of_mem_conditionVisits h
    simp
    omega
  · have := sizeOf_lt_of_mem_orderVisits h
    simp
    omega
  · have := sizeOf_lt_of_mem_conditionVisits h
    simp
    omega
  · obtain ⟨⟨distinct, items, s⟩, hl, h⟩ := List.mem_flatMap.1 h
    obtain ⟨x, hx, rfl⟩ := List.mem_map.1 h
    have := List.sizeOf_lt_of_mem hx
    obtain rfl := Option.mem_toList.1 hl
    simp at *
    omega
  · have := sizeOf_lt_of_mem_orderVisits h
    simp
    omega
  · obtain ⟨⟨type, query, s⟩, hc, rfl⟩ := List.mem_map.1 h
    have := sizeOf_lt_subquery query
    obtain rfl := Option.mem_toList.1 hc
    simp at *
    omega

theorem sizeOf_lt_of_mem_assignmentVisits {p : Segment} {as : List Assignment}
    (h : p ∈ assignmentVisits as) : sizeOf p < sizeOf as := by
  obtain ⟨⟨columns, value, span⟩, ha, rfl⟩ := List.mem_map.1 h
  have := List.sizeOf_lt_of_mem ha
  simp at *
  omega

/-- The parts of a statement are smaller than the statement. -/
theorem sizeOf_lt_of_mem_statementVisits {p : Segment} {st : Statement} (h : p ∈ st.visits) :
    sizeOf p < sizeOf (Segment.statement st) := by
  cases st with
  | select s =>
    have := sizeOf_lt_of_mem_selectVisits h
    simp at *
    omega
  | insert s =>
    obtain ⟨table, columns, rows, set, query, span⟩ := s
    simp only [Statement.visits, List.mem_append] at h
    rcases h with (h | h) | h
    · obtain ⟨⟨as, s⟩, hset, h⟩ := List.mem_flatMap.1 h
      have := sizeOf_lt_of_mem_assignmentVisits h
      obtain rfl := Option.mem_toList.1 hset
      simp at *
      omega
    · obtain ⟨q, hq, rfl⟩ := List.mem_map.1 h
      have := sizeOf_lt_subquery q
      obtain rfl := Option.mem_toList.1 hq
      simp
      omega
    · obtain ⟨⟨values, s⟩, hrow, h⟩ := List.mem_flatMap.1 h
      have := List.sizeOf_lt_of_mem hrow
      have := sizeOf_mem_map_expression h
      simp at *
      omega
  | update s =>
    obtain ⟨table, ⟨as, t⟩, condition, orderBy, limit, span⟩ := s
    simp only [Statement.visits, List.mem_append, List.mem_singleton] at h
    rcases h with (rfl | h) | h
    · simp
      omega
    · have := sizeOf_lt_of_mem_assignmentVisits h
      simp
      omega
    · have := sizeOf_lt_of_mem_conditionVisits h
      simp
      omega
  | delete s =>
    obtain ⟨table, condition, orderBy, limit, span⟩ := s
    simp only [Statement.visits, List.mem_append, List.mem_singleton] at h
    rcases h with rfl | h
    · simp
      omega
    · have := sizeOf_lt_of_mem_conditionVisits h
      simp
      omega

/-- What a conversion visits below a segment is smaller than the segment. -/
theorem Segment.sizeOf_lt_of_mem_visits {s p : Segment} (h : p ∈ s.visits) :
    sizeOf p < sizeOf s := by
  cases s with
  | table t => exact sizeOf_lt_of_mem_tableVisits h
  | projection x => exact sizeOf_lt_of_mem_projectionVisits h
  | expression x => exact sizeOf_lt_of_mem_exprVisits h
  | statement st => exact sizeOf_lt_of_mem_statementVisits h
  | select q => exact sizeOf_lt_of_mem_selectVisits h

/-! ## Checks -/

/-- Whether a table has no rows to stand for: a derived table without a select list, and
without a source or with a hollow one. -/
def Table.hollow : Table → Bool
  | .subquery ⟨⟨none, none, _, _, _, _, _, _, _⟩, _⟩ _ _ => true
  | .subquery ⟨⟨none, some table, _, _, _, _, _, _, _⟩, _⟩ _ _ => table.hollow
  | _ => false

/-- Whether a segment has nothing to stand for; only a table may have nothing. -/
def Segment.hollow : Segment → Bool
  | .table t => t.hollow
  | .projection _ | .expression _ | .statement _ | .select _ => false

/-- Whether a count fits a literal. -/
def countFits (n : UInt64) : Bool := n ≤ greatestLiteral

/-- Whether an aggregate call has as many arguments as it takes. Only COUNT may have none. -/
def Aggregation.sound (a : Aggregation) : Bool :=
  if a.arguments.isEmpty then a.function = .count
  else (aggregateOperator a.function).arity.accepts a.arguments.length

/-- Whether an expression is a literal that IS can test for. -/
def Expr.isTestLiteral : Expr → Bool
  | .literal .null _ | .literal (.boolean _) _ => true
  | _ => false

/-- The checks on an expression. -/
def Expr.sound : Expr → Bool
  | .binary _ operator right _ =>
    match testNegated? operator with
    | some _ => right.isTestLiteral
    | none => (OperatorTable.standard.resolveBinary? operator).isSome
  | .function name arguments _ =>
    (OperatorTable.standard.resolveFunction name).arity.accepts arguments.length
  | .aggregation a => a.sound
  | .caseWhen _ whens thens _ _ => !whens.isEmpty && whens.length == thens.length
  | .common .. => false
  | _ => true

/-- The checks on a select-list item. -/
def Projection.sound : Projection → Bool
  | .aggregation a _ _ => a.sound
  | _ => true

/-- Whether a join is matched by one thing at most, and by nothing if it is a natural or a
cross join. -/
def joinSound (type : JoinType) (natural hasCondition hasColumns : Bool) : Bool :=
  !(hasCondition && hasColumns) && (!(natural || type.isCross) || !(hasCondition || hasColumns))

/-- The checks on a table. -/
def Table.sound : Table → Bool
  | .simple _ | .subquery .. => true
  | .join left right type natural condition columns _ =>
    joinSound type natural condition.isSome (!columns.isEmpty) && !left.hollow && !right.hollow
  | .deleteMulti .. => false

/-- The checks on a sort or grouping item. -/
def OrderItem.sound : OrderItem → Bool
  | .ordinal index _ _ _ => countFits index
  | .column .. | .expression .. => true

/-- The checks on an ORDER BY or GROUP BY clause. -/
def OrderClause.sound (c : OrderClause) : Bool :=
  !c.items.isEmpty && c.items.all OrderItem.sound

/-- The checks on a value of LIMIT or OFFSET. -/
def PageValue.sound : PageValue → Bool
  | .number value _ => countFits value
  | .parameter .. => true

/-- The checks on a SELECT. -/
def Select.sound (s : Select) : Bool :=
  s.source.all (!·.hollow) && s.groupBy.all OrderClause.sound &&
    s.projections.all (!·.items.isEmpty) && s.orderBy.all OrderClause.sound &&
    (s.limit.bind Limit.offset).all PageValue.sound &&
    (s.limit.bind Limit.rowCount).all PageValue.sound

/-- Whether each assignment of a SET list is to one column. -/
def singleColumns (assignments : List Assignment) : Bool :=
  assignments.all fun a => a.columns.length == 1

/-- The checks on an INSERT. It takes its rows from one of VALUES, SET and SELECT, all of one
width, and a SET list stands instead of a column list. -/
def Insert.sound (s : Insert) : Bool :=
  s.sourceCount == 1 &&
    s.set.all (fun set => s.columns.isEmpty && singleColumns set.assignments) &&
    s.rows.all fun row => row.values.length == s.width

/-- The checks on an UPDATE. -/
def Update.sound (s : Update) : Bool :=
  s.orderBy.isNone && s.limit.isNone && !s.table.hollow && singleColumns s.set.assignments &&
    !s.set.assignments.isEmpty

/-- The checks on a DELETE. -/
def Delete.sound (s : Delete) : Bool :=
  s.orderBy.isNone && s.limit.isNone && !s.table.hollow

/-- The checks on a statement. -/
def Statement.sound : Statement → Bool
  | .select s => s.sound
  | .insert s => s.sound
  | .update s => s.sound
  | .delete s => s.sound

namespace Segment

/-- The checks made on a segment, apart from its parts. -/
def sound : Segment → Bool
  | table t => t.sound
  | projection p => p.sound
  | expression x => x.sound
  | statement st => st.sound
  | select q => q.sound

/-! ## Well-formedness and height -/

/-- Whether a segment and all its parts are sound. -/
def wellFormed (s : Segment) : Bool :=
  s.sound && s.visits.attach.all fun p => p.1.wellFormed
termination_by sizeOf s
decreasing_by exact sizeOf_lt_of_mem_visits p.2

/-- How many segments a conversion is inside of at most, this one included. -/
def height (s : Segment) : Nat :=
  (s.visits.attach.map fun p => p.1.height).foldr max 0 + 1
termination_by sizeOf s
decreasing_by exact sizeOf_lt_of_mem_visits p.2

theorem wellFormed_eq (s : Segment) : s.wellFormed = (s.sound && s.visits.all wellFormed) := by
  rw [wellFormed, Bool.eq_iff_iff]
  simp

/-- A segment is well formed if it is sound itself and what is visited below it is well formed. -/
theorem wellFormed_iff (s : Segment) :
    s.wellFormed ↔ s.sound ∧ ∀ p ∈ s.visits, p.wellFormed := by
  rw [wellFormed_eq, Bool.and_eq_true, List.all_eq_true]

/-- The height of a segment is one more than that of the highest segment below it. -/
theorem height_eq (s : Segment) : s.height = (s.visits.map height).foldr max 0 + 1 := by
  rw [height]
  simp

/-- A bound on the maximum is a bound on all. -/
theorem foldr_max_le {n : Nat} {heights : List Nat} :
    heights.foldr max 0 ≤ n ↔ ∀ h ∈ heights, h ≤ n := by
  induction heights with
  | nil => simp
  | cons h heights ih => rw [List.foldr_cons, Nat.max_le, ih, List.forall_mem_cons]

/-- A segment fits into one level more than what is below it. -/
theorem height_le_succ_iff {s : Segment} {n : Nat} :
    s.height ≤ n + 1 ↔ ∀ p ∈ s.visits, p.height ≤ n := by
  rw [height_eq, Nat.add_le_add_iff_right, foldr_max_le, List.forall_mem_map]

/-- Every segment needs a level. -/
theorem height_pos (s : Segment) : 0 < s.height := by
  rw [height_eq]
  exact Nat.succ_pos _

end Segment

end SqlAlgebra
