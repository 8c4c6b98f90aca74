import SqlAlgebra.Conversion.Dispatch
import SqlAlgebra.Proofs.NormalForm

/-!
# Segments in normal form

`Segment.spelled` puts the operator texts and function names of a segment into normal form, at
any depth, and leaves everything else as it is, kinds and spans included. A rule descends into
the parts of its segment and looks no further, so it takes parts in normal form as it takes the
parts themselves, over a descent that puts them into normal form first. There is one equation
for each rule that has parts, `…_spelled`.
-/

namespace SqlAlgebra

open Text

mutual

/-- An expression with its operator texts and function names in normal form. -/
def Expr.spelled : Expr → Expr
  | .column c => .column c
  | .literal value span => .literal value span
  | .parameter index span => .parameter index span
  | .binary left operator right span =>
    .binary left.spelled (normalForm operator) right.spelled span
  | .negation operand span => .negation operand.spelled span
  | .membership left right negated span => .membership left.spelled right.spelled negated span
  | .between operand low high negated span =>
    .between operand.spelled low.spelled high.spelled negated span
  | .list items span => .list (exprsSpelled items) span
  | .function name arguments span => .function (normalForm name) (exprsSpelled arguments) span
  | .aggregation call => .aggregation call.spelled
  | .subquery query => .subquery query.spelled
  | .existence query negated span => .existence query.spelled negated span
  | .caseWhen operand whens thens otherwise span =>
    .caseWhen (exprSpelled? operand) (exprsSpelled whens) (exprsSpelled thens)
      (exprSpelled? otherwise) span
  | .common text span => .common text span

/-- Expressions in normal form. -/
def exprsSpelled : List Expr → List Expr
  | [] => []
  | x :: xs => x.spelled :: exprsSpelled xs

/-- An optional expression in normal form. -/
def exprSpelled? : Option Expr → Option Expr
  | none => none
  | some x => some x.spelled

/-- An aggregate call in normal form. -/
def Aggregation.spelled : Aggregation → Aggregation
  | ⟨function, distinct, arguments, span⟩ => ⟨function, distinct, exprsSpelled arguments, span⟩

/-- A subquery in normal form. -/
def Subquery.spelled : Subquery → Subquery
  | ⟨select, span⟩ => ⟨select.spelled, span⟩

/-- A SELECT in normal form. -/
def Select.spelled : Select → Select
  | ⟨projections, source, condition, groupBy, having, orderBy, limit, combine, span⟩ =>
    ⟨listSpelled? projections, tableSpelled? source, conditionSpelled? condition,
      orderSpelled? groupBy, conditionSpelled? having, orderSpelled? orderBy, limit,
      combineSpelled? combine, span⟩

/-- An optional select list in normal form. -/
def listSpelled? : Option SelectList → Option SelectList
  | none => none
  | some ⟨distinct, items, span⟩ => some ⟨distinct, projectionsSpelled items, span⟩

/-- Select-list items in normal form. -/
def projectionsSpelled : List Projection → List Projection
  | [] => []
  | p :: ps => p.spelled :: projectionsSpelled ps

/-- A select-list item in normal form. -/
def Projection.spelled : Projection → Projection
  | .column c aliasName span => .column c aliasName span
  | .expression x aliasName span => .expression x.spelled aliasName span
  | .aggregation call aliasName span => .aggregation call.spelled aliasName span
  | .shorthand owner span => .shorthand owner span
  | .subquery query aliasName span => .subquery query.spelled aliasName span

/-- An optional table in normal form. -/
def tableSpelled? : Option Table → Option Table
  | none => none
  | some t => some t.spelled

/-- A table in normal form. -/
def Table.spelled : Table → Table
  | .simple t => .simple t
  | .join left right type natural condition sharedColumns span =>
    .join left.spelled right.spelled type natural (exprSpelled? condition) sharedColumns span
  | .subquery query aliasName span => .subquery query.spelled aliasName span
  | .deleteMulti targets relation span => .deleteMulti targets relation.spelled span

/-- An optional condition in normal form. -/
def conditionSpelled? : Option Condition → Option Condition
  | none => none
  | some ⟨x, span⟩ => some ⟨x.spelled, span⟩

/-- An optional ORDER BY or GROUP BY clause in normal form. -/
def orderSpelled? : Option OrderClause → Option OrderClause
  | none => none
  | some ⟨items, span⟩ => some ⟨itemsSpelled items, span⟩

/-- Sort or grouping items in normal form. -/
def itemsSpelled : List OrderItem → List OrderItem
  | [] => []
  | item :: items => item.spelled :: itemsSpelled items

/-- A sort or grouping item in normal form. -/
def OrderItem.spelled : OrderItem → OrderItem
  | .column c direction nulls span => .column c direction nulls span
  | .expression x direction nulls span => .expression x.spelled direction nulls span
  | .ordinal index direction nulls span => .ordinal index direction nulls span

/-- An optional set operation in normal form. -/
def combineSpelled? : Option Combine → Option Combine
  | none => none
  | some ⟨type, query, span⟩ => some ⟨type, query.spelled, span⟩

end

@[simp] theorem exprsSpelled_eq (xs : List Expr) : exprsSpelled xs = xs.map Expr.spelled := by
  induction xs with
  | nil => rfl
  | cons x xs ih => rw [exprsSpelled, ih, List.map_cons]

@[simp] theorem exprSpelled?_eq (x : Option Expr) : exprSpelled? x = x.map Expr.spelled := by
  cases x <;> rfl

/-- An assignment in normal form. -/
def Assignment.spelled (a : Assignment) : Assignment :=
  { a with value := a.value.spelled }

/-- A SET list in normal form. -/
def SetClause.spelled (set : SetClause) : SetClause :=
  { set with assignments := set.assignments.map Assignment.spelled }

/-- A row of values in normal form. -/
def ValuesRow.spelled (row : ValuesRow) : ValuesRow :=
  { row with values := row.values.map Expr.spelled }

/-- An INSERT in normal form. -/
def Insert.spelled (s : Insert) : Insert :=
  { s with
    rows := s.rows.map ValuesRow.spelled
    set := s.set.map SetClause.spelled
    query := s.query.map Subquery.spelled }

/-- An UPDATE in normal form. -/
def Update.spelled (s : Update) : Update :=
  { s with
    table := s.table.spelled
    set := s.set.spelled
    condition := conditionSpelled? s.condition
    orderBy := orderSpelled? s.orderBy }

/-- A DELETE in normal form. -/
def Delete.spelled (s : Delete) : Delete :=
  { s with
    table := s.table.spelled
    condition := conditionSpelled? s.condition
    orderBy := orderSpelled? s.orderBy }

/-- A statement in normal form. -/
def Statement.spelled : Statement → Statement
  | .select s => .select s.spelled
  | .insert s => .insert s.spelled
  | .update s => .update s.spelled
  | .delete s => .delete s.spelled

/-- A segment in normal form. -/
def Segment.spelled : Segment → Segment
  | .table t => .table t.spelled
  | .projection p => .projection p.spelled
  | .expression x => .expression x.spelled
  | .statement st => .statement st.spelled
  | .select q => .select q.spelled

/-- A failure that quotes an operator in normal form. -/
def ConvertError.spelled : ConvertError → ConvertError
  | unsupportedOperator operator left right span =>
    unsupportedOperator (normalForm operator) left right span
  | e => e

/-! ## Kinds and spans stay -/

@[simp] theorem Aggregation.span_spelled (a : Aggregation) : a.spelled.span = a.span := by
  cases a
  rfl

@[simp] theorem Subquery.span_spelled (query : Subquery) : query.spelled.span = query.span := by
  cases query
  rfl

@[simp] theorem Subquery.select_spelled (query : Subquery) :
    query.spelled.select = query.select.spelled := by
  cases query
  rfl

@[simp] theorem Select.span_spelled (q : Select) : q.spelled.span = q.span := by
  cases q
  rfl

/-- The normal form of an expression is of the same kind. -/
@[simp] theorem Expr.kind_spelled (x : Expr) : x.spelled.kind = x.kind := by
  cases x <;> rfl

@[simp] theorem Expr.span_spelled (x : Expr) : x.spelled.span = x.span := by
  cases x <;> simp [spelled, span]

@[simp] theorem Table.kind_spelled (t : Table) : t.spelled.kind = t.kind := by
  cases t <;> rfl

@[simp] theorem Table.span_spelled (t : Table) : t.spelled.span = t.span := by
  cases t <;> rfl

@[simp] theorem Projection.kind_spelled (p : Projection) : p.spelled.kind = p.kind := by
  cases p <;> rfl

@[simp] theorem Projection.span_spelled (p : Projection) : p.spelled.span = p.span := by
  cases p <;> rfl

@[simp] theorem Statement.kind_spelled (st : Statement) : st.spelled.kind = st.kind := by
  cases st <;> rfl

@[simp] theorem Statement.span_spelled (st : Statement) : st.spelled.span = st.span := by
  cases st with
  | select q => exact q.span_spelled
  | insert _ | update _ | delete _ => rfl

@[simp] theorem Segment.kind_spelled (x : Segment) : x.spelled.kind = x.kind := by
  cases x <;> simp [spelled, kind]

/-! ## Rules take parts in normal form -/

namespace Conversion

open ConvertM

variable (go : Descent)

/-- A list of expressions in normal form is converted by the descent into normal forms. -/
theorem expressions_spelled (owner : SegmentKind) (xs : List Expr) :
    expressions go owner (xs.map Expr.spelled) = expressions (go ∘ Segment.spelled) owner xs := by
  induction xs with
  | nil => rfl
  | cons x xs ih =>
    simp only [List.map_cons, expressions, ih, Expr.kind_spelled]
    rfl

/-- A literal is its own normal form, so it is tested for alike. -/
theorem literalTest?_spelled (negated : Bool) (x : Expr) :
    literalTest? negated x.spelled = literalTest? negated x := by
  cases x <;> rfl

/-- The sides of a binary operation are taken in normal form by the descent into normal forms; its
operator is left as it is. -/
theorem binary_spelled (operators : OperatorTable) (left : Expr) (operator : String)
    (right : Expr) (span : Span) :
    binary operators go left.spelled operator right.spelled span =
      binary operators (go ∘ Segment.spelled) left operator right span := by
  simp only [binary, literalTest?_spelled, Expr.kind_spelled]
  rfl

/-- The right side of IN has a subquery exactly if its normal form has one. -/
theorem memberSource_spelled (x : Expr) :
    memberSource go x.spelled = memberSource (go ∘ Segment.spelled) x := by
  cases x with
  | subquery query => simp [Expr.spelled, memberSource, Segment.spelled]
  | _ => rfl

theorem list_spelled (items : List Expr) (span : Span) :
    list go (items.map Expr.spelled) span = list (go ∘ Segment.spelled) items span := by
  rw [list, expressions_spelled]
  rfl

/-- The arguments of a function call are taken in normal form; its name is left as it is. -/
theorem function_spelled (operators : OperatorTable) (name : String) (arguments : List Expr)
    (span : Span) :
    function operators go name (arguments.map Expr.spelled) span =
      function operators (go ∘ Segment.spelled) name arguments span := by
  simp only [function, List.length_map, expressions_spelled]

/-- IN over normal forms is IN with the descent into normal forms. -/
theorem membership_spelled (left right : Expr) (negated : Bool) (span : Span) :
    membership go left.spelled right.spelled negated span =
      membership (go ∘ Segment.spelled) left right negated span := by
  simp only [membership, memberSource_spelled]
  rfl

theorem between_spelled (operand low high : Expr) (negated : Bool) (span : Span) :
    between go operand.spelled low.spelled high.spelled negated span =
      between (go ∘ Segment.spelled) operand low high negated span := by
  have h := expressions_spelled go .between [operand, low, high]
  rw [List.map_cons, List.map_cons, List.map_cons, List.map_nil] at h
  rw [between, h]
  rfl

theorem aggregateOperands_spelled (a : Aggregation) :
    aggregateOperands go a.spelled = aggregateOperands (go ∘ Segment.spelled) a := by
  obtain ⟨function, distinct, arguments, span⟩ := a
  simp only [Aggregation.spelled, exprsSpelled_eq, aggregateOperands, List.isEmpty_map,
    List.length_map, expressions_spelled]

/-- An aggregate call names its function by a keyword, so only its arguments are spelled. -/
theorem aggregation_spelled (a : Aggregation) :
    aggregation go a.spelled = aggregation (go ∘ Segment.spelled) a := by
  rw [aggregation, aggregateOperands_spelled]
  cases a
  rfl

theorem scalarSubquery_spelled (query : Subquery) :
    scalarSubquery go query.spelled = scalarSubquery (go ∘ Segment.spelled) query := by
  cases query
  rfl

theorem existence_spelled (query : Subquery) (negated : Bool) (span : Span) :
    existence go query.spelled negated span =
      existence (go ∘ Segment.spelled) query negated span := by
  cases query
  rfl

theorem branches_spelled : ∀ whens thens : List Expr,
    branches go (whens.map Expr.spelled) (thens.map Expr.spelled) =
      branches (go ∘ Segment.spelled) whens thens
  | w :: ws, t :: ts => by
    simp only [List.map_cons, branches, branches_spelled ws ts]
    rfl
  | [], _ => by simp [branches]
  | _ :: _, [] => by simp [branches]

/-- A CASE over normal forms is the CASE with the descent into normal forms. -/
theorem caseWhen_spelled (operand : Option Expr) (whens thens : List Expr)
    (otherwise : Option Expr) (span : Span) :
    caseWhen go (operand.map Expr.spelled) (whens.map Expr.spelled) (thens.map Expr.spelled)
        (otherwise.map Expr.spelled) span =
      caseWhen (go ∘ Segment.spelled) operand whens thens otherwise span := by
  simp only [caseWhen, List.isEmpty_map, List.length_map, branches_spelled, Option.isSome_map]
  cases operand <;> cases otherwise <;> rfl

theorem selectItems_spelled : ∀ (ordinal : Nat) (ps : List Projection),
    selectItems go ordinal (projectionsSpelled ps) =
      selectItems (go ∘ Segment.spelled) ordinal ps
  | _, [] => rfl
  | ordinal, p :: ps => by
    simp only [projectionsSpelled, selectItems, selectItems_spelled (ordinal + 1) ps]
    rfl

theorem joinCondition_spelled (condition : Option Expr) (sharedColumns : List Column) :
    joinCondition go (condition.map Expr.spelled) sharedColumns =
      joinCondition (go ∘ Segment.spelled) condition sharedColumns := by
  cases condition with
  | none => rfl
  | some x => simp only [Option.map_some, joinCondition, Expr.span_spelled]; rfl

/-- A join over normal forms is the join with the descent into normal forms. -/
theorem joinTable_spelled (left right : Table) (type : JoinType) (natural : Bool)
    (condition : Option Expr) (sharedColumns : List Column) (span : Span) :
    joinTable go left.spelled right.spelled type natural (condition.map Expr.spelled)
        sharedColumns span =
      joinTable (go ∘ Segment.spelled) left right type natural condition sharedColumns span := by
  simp only [joinTable, Option.isSome_map, joinCondition_spelled]
  rfl

/-- A derived table over a normal form is the derived table with the descent into normal forms. -/
theorem subqueryTable_spelled (query : Subquery) (aliasName : Option String) (span : Span) :
    subqueryTable go query.spelled aliasName span =
      subqueryTable (go ∘ Segment.spelled) query aliasName span := by
  obtain ⟨⟨projections, source, condition, groupBy, having, orderBy, limit, combine, s⟩, _⟩ := query
  rcases projections with _ | ⟨distinct, items, span⟩
  · cases source <;> rfl
  · rfl

theorem source_spelled (source : Option Table) :
    Conversion.source go (tableSpelled? source) =
      Conversion.source (go ∘ Segment.spelled) source := by
  cases source with
  | none => rfl
  | some t => simp only [tableSpelled?, Conversion.source, Table.span_spelled]; rfl

/-- A WHERE or HAVING clause. -/
theorem conditionClause_spelled (clause : Clause) (c : Option SqlAlgebra.Condition) :
    whenPresent (fun c => required clause c.span (condition go c)) (conditionSpelled? c) =
      whenPresent (fun c => required clause c.span (condition (go ∘ Segment.spelled) c)) c := by
  rcases c with _ | ⟨x, span⟩ <;> rfl

/-- Keys that are taken in normal form are kept where they were. -/
theorem kept_spelled {f g : OrderItem → ConvertM (Option Plan)}
    (h : ∀ item, f item.spelled = g item) (items : List OrderItem) :
    kept f (itemsSpelled items) = kept g items := by
  induction items with
  | nil => rfl
  | cons item items ih => simp only [itemsSpelled, kept, h, ih]

theorem itemKey_spelled (item : OrderItem) :
    itemKey go item.spelled = itemKey (go ∘ Segment.spelled) item := by
  cases item <;> rfl

/-- An item of ORDER BY keeps its direction and the place of its nulls in normal form. -/
theorem orderItem_spelled (item : OrderItem) :
    orderItem go item.spelled = orderItem (go ∘ Segment.spelled) item := by
  cases item <;> rfl

/-- A GROUP BY or ORDER BY clause. -/
theorem keysClause_spelled (clause : Clause) {f g : OrderItem → ConvertM (Option Plan)}
    (h : ∀ item, f item.spelled = g item) (c : Option OrderClause) :
    whenPresent (fun c => required clause c.span (nonEmpty <$> kept f c.items))
        (orderSpelled? c) =
      whenPresent (fun c => required clause c.span (nonEmpty <$> kept g c.items)) c := by
  rcases c with _ | ⟨items, span⟩
  · rfl
  · simp only [orderSpelled?, whenPresent, kept_spelled h]

/-- The clauses of a SELECT in normal form are those of the SELECT, with the descent into normal
forms. -/
theorem selectParts_spelled (q : Select) :
    selectParts go q.spelled = selectParts (go ∘ Segment.spelled) q := by
  obtain ⟨projections, source, condition, groupBy, having, orderBy, limit, combine, span⟩ := q
  have hlist : whenPresent (fun l => (·, l.distinct) <$>
        required .selectList l.span (selectList go l)) (listSpelled? projections) =
      whenPresent (fun l => (·, l.distinct) <$>
        required .selectList l.span (selectList (go ∘ Segment.spelled) l)) projections := by
    rcases projections with _ | ⟨distinct, items, span⟩
    · rfl
    · simp only [listSpelled?, whenPresent, selectList, selectItems_spelled]
  have hcombine : whenPresent (fun c => (c.type, ·) <$>
        required .combine c.span (Conversion.combine go c)) (combineSpelled? combine) =
      whenPresent (fun c => (c.type, ·) <$>
        required .combine c.span (Conversion.combine (go ∘ Segment.spelled) c)) combine := by
    rcases combine with _ | ⟨type, ⟨q, span⟩, span'⟩ <;> rfl
  simp only [Select.spelled, selectParts, source_spelled, conditionClause_spelled, groupKeys,
    keysClause_spelled .groupBy (itemKey_spelled go), hlist, orderKeys,
    keysClause_spelled .orderBy (orderItem_spelled go), hcombine]

/-- A SELECT in normal form is converted by the descent into normal forms. -/
theorem select_spelled (q : Select) :
    Conversion.select go q.spelled = Conversion.select (go ∘ Segment.spelled) q := by
  rw [Conversion.select, selectParts_spelled]
  rfl

/-- A SET list keeps its columns in normal form. -/
theorem assignments_spelled (as : List Assignment) :
    assignments go (as.map Assignment.spelled) = assignments (go ∘ Segment.spelled) as := by
  induction as with
  | nil => rfl
  | cons a as ih =>
    simp only [List.map_cons, assignments, ih]
    rfl

/-- The rows of VALUES keep their lengths in normal form. -/
theorem valuesRows_spelled (width : Nat) (rows : List ValuesRow) :
    valuesRows go width (rows.map ValuesRow.spelled) =
      valuesRows (go ∘ Segment.spelled) width rows := by
  induction rows with
  | nil => rfl
  | cons row rows ih =>
    simp only [List.map_cons, valuesRows, ValuesRow.spelled, List.length_map,
      expressions_spelled, ih]

/-- An INSERT in normal form has the same source, with the descent into normal forms. -/
theorem insertSource_spelled (s : Insert) (listed : List Plan) :
    insertSource go s.spelled listed = insertSource (go ∘ Segment.spelled) s listed := by
  have hwidth : s.spelled.width = s.width := by
    obtain ⟨table, columns, rows, set, query, span⟩ := s
    cases columns <;> cases rows <;> simp [Insert.spelled, Insert.width, ValuesRow.spelled]
  obtain ⟨table, columns, rows, set, query, span⟩ := s
  cases set with
  | some set =>
    simp only [insertSource, Insert.spelled, Option.map_some, SetClause.spelled,
      assignments_spelled]
  | none =>
    cases query with
    | some query =>
      cases query
      rfl
    | none =>
      simp only [insertSource, hwidth]
      simp only [Insert.spelled, Option.map_none, valuesRows_spelled]

theorem insert_spelled (s : Insert) :
    Conversion.insert go s.spelled = Conversion.insert (go ∘ Segment.spelled) s := by
  have hsources : s.spelled.sourceCount = s.sourceCount := by
    simp only [Insert.sourceCount, Insert.spelled, List.isEmpty_map, Option.toList_map,
      List.length_map]
  simp only [Conversion.insert, hsources, insertSource_spelled]
  rfl

theorem isSome_orderSpelled? (c : Option OrderClause) : (orderSpelled? c).isSome = c.isSome := by
  rcases c with _ | ⟨items, span⟩ <;> rfl

/-- An UPDATE in normal form is converted by the descent into normal forms. -/
theorem update_spelled (s : Update) : update go s.spelled = update (go ∘ Segment.spelled) s := by
  simp only [update, Update.spelled, SetClause.spelled, unordered, isSome_orderSpelled?, target,
    Table.span_spelled, assignments_spelled, targetCondition, conditionClause_spelled]
  rfl

theorem delete_spelled (s : Delete) :
    Conversion.delete go s.spelled = Conversion.delete (go ∘ Segment.spelled) s := by
  simp only [Conversion.delete, Delete.spelled, unordered, isSome_orderSpelled?, target,
    Table.span_spelled, targetCondition, conditionClause_spelled]
  rfl

end Conversion

end SqlAlgebra
