import SqlAlgebra.Proofs.Restoration
import SqlAlgebra.Proofs.WellFormed

/-!
# Rules look at the parts of their segment only

A rule is handed a descent and may ask it about any segment at all. It asks about the parts of
its own segment, which `Segment.visits` lists: two descents that agree on these give the same
conversion, whatever they do elsewhere (`Compiler.convertEntered_congr`). So in a proof about
one rule the descent can be exchanged for one that fails outside the parts (`confined`), of
which more is known.
-/

namespace SqlAlgebra

open Conversion ConvertM

variable {α β : Type} {go go' : Descent}

/-- Two descents do the same with some segments. -/
def AgreeOn (go go' : Descent) (xs : List Segment) : Prop :=
  ∀ x ∈ xs, go x = go' x

theorem AgreeOn.mono {xs ys : List Segment} (h : AgreeOn go go' ys) (hxs : xs ⊆ ys) :
    AgreeOn go go' xs :=
  fun x hx => h x (hxs hx)

section Confined

open Classical in
/-- The descent into some segments, which fails everywhere else. -/
noncomputable def confined (go : Descent) (xs : List Segment) : Descent :=
  fun x => if x ∈ xs then go x else throw (.maxRecursion 0)

variable {xs : List Segment} {x : Segment}

/-- A confined descent does as before where it is confined to. -/
theorem confined_of_mem (h : x ∈ xs) : confined go xs x = go x :=
  if_pos h

theorem confined_of_not_mem (h : x ∉ xs) : confined go xs x = throw (.maxRecursion 0) :=
  if_neg h

/-- A descent agrees with what is left of it where it is confined to. -/
theorem agreeOn_confined (go : Descent) (xs : List Segment) : AgreeOn go (confined go xs) xs :=
  fun _ hx => (confined_of_mem hx).symm

/-- A confined descent stays within the effects of the segments. -/
theorem keeps_confined (hgo : ∀ x, Keeps x.effect (go x)) (x : Segment) :
    Keeps x.effect (confined go xs x) := by
  by_cases hx : x ∈ xs
  · rw [confined_of_mem hx]
    exact hgo x
  · rw [confined_of_not_mem hx]
    exact keeps_of_context_eq fun _ => rfl

end Confined

/-! ## Expressions -/

/-- A list of expressions asks about each of them. -/
theorem expressions_congr (owner : SegmentKind) :
    ∀ es : List Expr, AgreeOn go go' (es.map .expression) →
      expressions go owner es = expressions go' owner es
  | [], _ => rfl
  | e :: es, h => by
    obtain ⟨he, hes⟩ := List.forall_mem_cons.1 h
    rw [expressions, expressions, he, expressions_congr owner es hes]

theorem binary_congr (operators : OperatorTable) (left : Expr) (operator : String)
    (right : Expr) (span : Span)
    (h : AgreeOn go go' (Expr.binary left operator right span).visits) :
    binary operators go left operator right span =
      binary operators go' left operator right span := by
  unfold binary
  rw [Expr.visits] at h
  cases htest : testNegated? operator with
  | some negated =>
    rw [htest] at h
    have hleft := h (.expression left) (by simp)
    simp only [hleft]
  | none =>
    rw [htest] at h
    have hleft := h (.expression left) (by simp)
    have hright := h (.expression right) (by simp)
    simp only [hleft, hright]

/-- IN asks about its left side, and about the SELECT or the expression on its right. -/
theorem membership_congr (left right : Expr) (negated : Bool) (span : Span)
    (h : AgreeOn go go' (Expr.membership left right negated span).visits) :
    membership go left right negated span = membership go' left right negated span := by
  have hleft : go (.expression left) = go' (.expression left) := by
    refine h _ ?_
    cases right <;> simp [Expr.visits]
  have hsource : memberSource go right = memberSource go' right := by
    cases right with
    | subquery query => exact h (.select query.select) (by simp [Expr.visits])
    | _ => exact h (.expression _) (by simp [Expr.visits])
  rw [membership, membership, hleft, hsource]

theorem function_congr (operators : OperatorTable) (name : String) (arguments : List Expr)
    (span : Span) (h : AgreeOn go go' (arguments.map .expression)) :
    function operators go name arguments span = function operators go' name arguments span := by
  unfold function
  rw [expressions_congr .function arguments h]

theorem aggregation_congr (a : Aggregation) (h : AgreeOn go go' (a.arguments.map .expression)) :
    aggregation go a = aggregation go' a := by
  unfold aggregation aggregateOperands
  rw [expressions_congr .aggregation a.arguments h]

theorem branches_congr :
    ∀ whens thens : List Expr, AgreeOn go go' ((interleaved whens thens).map .expression) →
      branches go whens thens = branches go' whens thens
  | w :: ws, t :: ts, h => by
    obtain ⟨hw, h⟩ := List.forall_mem_cons.1 h
    obtain ⟨ht, h⟩ := List.forall_mem_cons.1 h
    rw [branches, branches, hw, ht, branches_congr ws ts h]
  | [], _, _ => rfl
  | _ :: _, [], _ => rfl

/-- A CASE asks about its operand, its branches and its default. -/
theorem caseWhen_congr (operand : Option Expr) (whens thens : List Expr)
    (otherwise : Option Expr) (span : Span)
    (h : AgreeOn go go' (Expr.caseWhen operand whens thens otherwise span).visits) :
    caseWhen go operand whens thens otherwise span =
      caseWhen go' operand whens thens otherwise span := by
  have hlead : caseOperand go operand = caseOperand go' operand := by
    cases operand with
    | none => rfl
    | some e => rw [caseOperand, caseOperand, h (.expression e) (by simp [Expr.visits])]
  have hmiddle : branches go whens thens = branches go' whens thens :=
    branches_congr whens thens (h.mono (by simp [Expr.visits]))
  have hlast : caseOtherwise go otherwise = caseOtherwise go' otherwise := by
    cases otherwise with
    | none => rfl
    | some e => exact h (.expression e) (by simp [Expr.visits])
  rw [caseWhen, caseWhen, hlead, hmiddle, hlast]

/-- Every rule for expressions asks about the parts of its expression only. -/
theorem exprRule_congr (operators : OperatorTable) (rule : ExprRule) (e : Expr)
    (h : AgreeOn go go' e.visits) :
    rule.apply operators go e = rule.apply operators go' e := by
  unfold ExprRule.apply
  split
  · rfl
  · rfl
  · rfl
  · exact binary_congr operators _ _ _ _ h
  · rw [negation, negation, h (.expression _) (by simp [Expr.visits])]
  · exact membership_congr _ _ _ _ h
  · rw [between, between, expressions_congr .between _ h]
  · rw [list, list, expressions_congr .list _ h]
  · exact function_congr operators _ _ _ h
  · exact aggregation_congr _ h
  · rw [scalarSubquery, scalarSubquery, h (.select _) (by simp [Expr.visits])]
  · rw [existence, existence, h (.select _) (by simp [Expr.visits])]
  · exact caseWhen_congr _ _ _ _ _ h
  · rfl

/-! ## Select-list items and tables -/

/-- Every rule for items asks about the parts of its item only. -/
theorem projectionRule_congr (settings : CompilerSettings) (rule : ProjectionRule)
    (p : Projection) (h : AgreeOn go go' p.visits) :
    rule.apply settings go p = rule.apply settings go' p := by
  unfold ProjectionRule.apply
  split
  · rfl
  · rw [expressionItem, expressionItem, h (.expression _) (by simp [Projection.visits])]
  · rw [aggregationItem, aggregationItem, aggregation_congr _ h]
  · rfl
  · rw [subqueryItem, subqueryItem, scalarSubquery, scalarSubquery,
      h (.select _) (by simp [Projection.visits])]
  · rfl

/-- A join asks about its sides and its condition. -/
theorem joinTable_congr (left right : Table) (type : JoinType) (natural : Bool)
    (condition : Option Expr) (columns : List Column) (span : Span)
    (h : AgreeOn go go' (Table.join left right type natural condition columns span).visits) :
    joinTable go left right type natural condition columns span =
      joinTable go' left right type natural condition columns span := by
  have hleft := h (.table left) (by simp [Table.visits])
  have hright := h (.table right) (by simp [Table.visits])
  have hcondition : joinCondition go condition columns = joinCondition go' condition columns := by
    cases condition with
    | none => rfl
    | some e => rw [joinCondition, joinCondition, h (.expression e) (by simp [Table.visits])]
  unfold joinTable joinSide
  rw [hleft, hright, hcondition]

/-- A derived table asks about its SELECT, or about its table if there is nothing else to it. -/
theorem subqueryTable_congr (query : Subquery) (aliasName : Option String) (span : Span)
    (h : AgreeOn go go' (Table.subquery query aliasName span).visits) :
    subqueryTable go query aliasName span = subqueryTable go' query aliasName span := by
  have hsource : derivedSource go query.select span = derivedSource go' query.select span := by
    unfold derivedSource
    rw [Table.visits] at h
    cases hlist : query.select.projections with
    | some l =>
      rw [hlist] at h
      exact h (.select query.select) (by simp)
    | none =>
      rw [hlist] at h
      cases hsource : query.select.source with
      | none => rfl
      | some table =>
        rw [hsource] at h
        have htable := h (.table table) (by simp)
        simp only [htable]
  rw [subqueryTable, subqueryTable, hsource]

/-- Every rule for tables asks about the parts of its table only. -/
theorem tableRule_congr (rule : TableRule) (t : Table) (h : AgreeOn go go' t.visits) :
    rule.apply go t = rule.apply go' t := by
  unfold TableRule.apply
  split
  · rfl
  · rw [joinTable_congr _ _ _ _ _ _ _ h]
  · exact subqueryTable_congr _ _ _ h
  · rfl

/-! ## SELECTs -/

theorem whenPresent_congr {f f' : α → ConvertM β} {o : Option α} (h : ∀ a ∈ o, f a = f' a) :
    whenPresent f o = whenPresent f' o := by
  cases o with
  | none => rfl
  | some a => rw [whenPresent, whenPresent, h a rfl]

theorem kept_congr {f f' : α → ConvertM (Option Plan)} :
    ∀ as : List α, (∀ a ∈ as, f a = f' a) → kept f as = kept f' as
  | [], _ => rfl
  | a :: as, h => by
    obtain ⟨ha, has⟩ := List.forall_mem_cons.1 h
    rw [kept, kept, ha, kept_congr as has]

theorem itemKey_congr (item : OrderItem) (h : AgreeOn go go' item.visits) :
    itemKey go item = itemKey go' item := by
  cases item with
  | expression e direction nulls span => exact h (.expression e) (by simp [OrderItem.visits])
  | column c direction nulls span => rfl
  | ordinal index direction nulls span => rfl

theorem orderItem_congr (item : OrderItem) (h : AgreeOn go go' item.visits) :
    orderItem go item = orderItem go' item := by
  rw [orderItem, orderItem, itemKey_congr item h]

/-- The items of an ORDER BY or GROUP BY clause are converted one by one. -/
theorem orderClause_congr {f f' : OrderItem → ConvertM (Option Plan)} (clause : Clause)
    (c : Option OrderClause) (hf : ∀ item, AgreeOn go go' item.visits → f item = f' item)
    (h : AgreeOn go go' (orderVisits c)) :
    whenPresent (fun c => required clause c.span (nonEmpty <$> kept f c.items)) c =
      whenPresent (fun c => required clause c.span (nonEmpty <$> kept f' c.items)) c := by
  refine whenPresent_congr fun c' hc' => ?_
  obtain rfl := Option.mem_def.1 hc'
  rw [kept_congr c'.items fun item hitem => hf item fun p hp => h p ?_]
  exact List.mem_flatMap.2 ⟨c', by simp, List.mem_flatMap.2 ⟨item, hitem, hp⟩⟩

theorem conditionClause_congr (clause : Clause) (c : Option SqlAlgebra.Condition)
    (h : AgreeOn go go' (conditionVisits c)) :
    whenPresent (fun c => required clause c.span (condition go c)) c =
      whenPresent (fun c => required clause c.span (condition go' c)) c := by
  refine whenPresent_congr fun c' hc' => ?_
  obtain rfl := Option.mem_def.1 hc'
  rw [condition, condition, h (.expression c'.expr) (by simp [conditionVisits])]

theorem selectItems_congr :
    ∀ (ordinal : Nat) (ps : List Projection), AgreeOn go go' (ps.map .projection) →
      selectItems go ordinal ps = selectItems go' ordinal ps
  | _, [], _ => rfl
  | ordinal, p :: ps, h => by
    obtain ⟨hp, hps⟩ := List.forall_mem_cons.1 h
    rw [selectItems, selectItems, hp, selectItems_congr (ordinal + 1) ps hps]

theorem source_congr (source : Option Table) (h : AgreeOn go go' (source.toList.map .table)) :
    Conversion.source go source = Conversion.source go' source := by
  cases source with
  | none => rfl
  | some table => rw [Conversion.source, Conversion.source, h (.table table) (by simp)]

theorem selectList_congr (l : SelectList) (h : AgreeOn go go' (l.items.map .projection)) :
    selectList go l = selectList go' l := by
  rw [selectList, selectList, selectItems_congr 0 l.items h]

/-- The clauses of a SELECT ask about the parts of the SELECT only. -/
theorem selectParts_congr (q : Select) (h : AgreeOn go go' q.visits) :
    selectParts go q = selectParts go' q := by
  have hsource := source_congr q.source (h.mono (by simp [Select.visits]))
  have hcondition := conditionClause_congr .condition q.condition
    (h.mono fun p hp => by simp [Select.visits, hp])
  have hgroupBy := orderClause_congr .groupBy q.groupBy itemKey_congr
    (h.mono fun p hp => by simp [Select.visits, hp])
  have hhaving := conditionClause_congr .having q.having
    (h.mono fun p hp => by simp [Select.visits, hp])
  have hlist : whenPresent (fun l => (·, l.distinct) <$>
        required .selectList l.span (selectList go l)) q.projections =
      whenPresent (fun l => (·, l.distinct) <$>
        required .selectList l.span (selectList go' l)) q.projections := by
    refine whenPresent_congr fun l hl => ?_
    rw [Option.mem_def] at hl
    rw [selectList_congr l (h.mono fun p hp => by simp [Select.visits, hl, hp])]
  have horderBy := orderClause_congr .orderBy q.orderBy orderItem_congr
    (h.mono fun p hp => by simp [Select.visits, hp])
  have hcombine : whenPresent (fun c => (c.type, ·) <$>
        required .combine c.span (combine go c)) q.combine =
      whenPresent (fun c => (c.type, ·) <$>
        required .combine c.span (combine go' c)) q.combine := by
    refine whenPresent_congr fun c hc => ?_
    rw [Option.mem_def] at hc
    rw [combine, combine, h (.select c.query.select) (by simp [Select.visits, hc])]
  unfold selectParts groupKeys orderKeys
  rw [hsource, hcondition, hgroupBy, hhaving, hlist, horderBy, hcombine]

theorem select_congr (q : Select) (h : AgreeOn go go' q.visits) :
    Conversion.select go q = Conversion.select go' q := by
  rw [Conversion.select, Conversion.select, selectParts_congr q h]

/-! ## Statements -/

theorem assignments_congr :
    ∀ as : List Assignment, AgreeOn go go' (assignmentVisits as) →
      assignments go as = assignments go' as
  | [], _ => rfl
  | a :: as, h => by
    obtain ⟨ha, has⟩ := List.forall_mem_cons.1 h
    rw [assignments, assignments, ha, assignments_congr as has]

theorem valuesRows_congr (width : Nat) :
    ∀ rows : List ValuesRow,
      AgreeOn go go' (rows.flatMap fun row => row.values.map .expression) →
        valuesRows go width rows = valuesRows go' width rows
  | [], _ => rfl
  | row :: rows, h => by
    have hrow := expressions_congr .insertStatement row.values (h.mono (by simp))
    have hrows := valuesRows_congr width rows (h.mono (by simp))
    rw [valuesRows, valuesRows, hrow, hrows]

/-- The source of an INSERT asks about the parts of the INSERT only. -/
theorem insertSource_congr (s : Insert) (listed : List Plan)
    (h : AgreeOn go go' (Statement.insert s).visits) :
    insertSource go s listed = insertSource go' s listed := by
  unfold insertSource
  cases hset : s.set with
  | some set =>
    have hvalues := assignments_congr set.assignments
      (h.mono fun p hp => by simp [Statement.visits, hset, hp])
    simp only [hvalues]
  | none =>
    cases hquery : s.query with
    | some query =>
      have hselect := h (.select query.select) (by simp [Statement.visits, hquery])
      simp only [hselect]
    | none =>
      have hrows := valuesRows_congr s.width s.rows (h.mono (by simp [Statement.visits]))
      simp only [hrows]

theorem target_congr (t : Table) (h : go (.table t) = go' (.table t)) :
    target go t = target go' t := by
  rw [target, target, h]

theorem targetCondition_congr (c : Option SqlAlgebra.Condition)
    (h : AgreeOn go go' (conditionVisits c)) : targetCondition go c = targetCondition go' c :=
  conditionClause_congr .condition c h

/-- Every rule for statements asks about the parts of its statement only. -/
theorem statementRule_congr (rule : StatementRule) (st : Statement)
    (h : AgreeOn go go' st.visits) : rule.apply go st = rule.apply go' st := by
  unfold StatementRule.apply
  split
  · rw [select_congr _ h]
  · rename_i s
    unfold Conversion.insert
    simp only [insertSource_congr s _ h]
  · rename_i s
    unfold update
    rw [target_congr s.table (h _ (by simp [Statement.visits])),
      assignments_congr s.set.assignments (h.mono (by simp [Statement.visits])),
      targetCondition_congr s.condition (h.mono (by simp [Statement.visits]))]
  · rename_i s
    unfold Conversion.delete
    rw [target_congr s.table (h _ (by simp [Statement.visits])),
      targetCondition_congr s.condition (h.mono (by simp [Statement.visits]))]
  · rfl

/-! ## Dispatch -/

/-- Whether a segment is handed back, to be looked up once more. -/
def Registry.Redispatches (r : Registry) : Segment → Prop
  | .table t => r.tables.handler t.kind = .redispatch
  | .projection p => r.projections.handler p.kind = .redispatch
  | .expression x => r.expressions.handler x.kind = .redispatch
  | .statement st => r.statements.handler st.kind = .redispatch
  | .select _ => r.select = .redispatch

/-- A handler asks about what its rules ask about, and about the segment itself if it hands it
back. -/
theorem handled_congr {ρ : Type} {rule rule' : ρ → ConvertM (Option Plan)} (x : Segment)
    (hrule : ∀ r, rule r = rule' r) (handler : Handler ρ)
    (hx : handler = .redispatch → go x = go' x) :
    handled handler rule go x = handled handler rule' go' x := by
  cases handler with
  | rule r => exact hrule r
  | absent => rfl
  | redispatch => exact hx rfl
  | unsupported => rfl

/-- A segment is converted alike by descents that agree on its parts, and on the segment itself
in case it is handed back. -/
theorem Compiler.convertEntered_congr (c : Compiler) (x : Segment)
    (h : AgreeOn go go' x.visits) (hx : c.registry.Redispatches x → go x = go' x) :
    c.convertEntered go x = c.convertEntered go' x := by
  cases x with
  | table t => exact handled_congr (.table t) (fun r => tableRule_congr r t h) _ hx
  | projection p =>
    exact handled_congr (.projection p) (fun r => projectionRule_congr c.settings r p h) _ hx
  | expression e =>
    exact handled_congr (.expression e)
      (fun r => exprRule_congr c.registry.operators r e h) _ hx
  | statement st => exact handled_congr (.statement st) (fun r => statementRule_congr r st h) _ hx
  | select q =>
    have hq := select_congr q h
    unfold convertEntered
    dsimp only
    split
    · rw [hq]
    · rfl
    · rename_i hselect
      exact hx hselect

end SqlAlgebra
