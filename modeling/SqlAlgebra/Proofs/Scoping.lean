import SqlAlgebra.Proofs.Inversion
import SqlAlgebra.Proofs.Lookup

/-!
# Owners are looked up by lexical scoping

Scopes are opened, filled and closed while a conversion runs, and yet the owner of a column is
found where the text has it: the owners of a statement are looked up in the order of
`Statement.occurrences`, and each answer is right for the surroundings of its column
(`Compiler.lookups_run`). A run that fails has looked up the first few of them.

Each rule is judged by the columns of its segment. A table leaves the names behind that it
exposes, so that what follows it knows them; any other segment leaves the surroundings as they
were, and does not convert to nothing.
-/

namespace SqlAlgebra

open Conversion ConvertM

variable {α β : Type}

/-- A descent that looks up the owners in each segment. -/
structure LooksAll (go : Descent) : Prop where
  keeps : ∀ x, Keeps x.effect (go x)
  expr : ∀ around x, Looks around (go (.expression x)) (x.occurrences around) (Present around)
  select : ∀ around q, Looks around (go (.select q)) (q.occurrences around) (Present around)
  item : ∀ around p, Looks around (go (.projection p)) (p.occurrences around) (Present around)
  table : ∀ around t, Looks around (go (.table t)) (t.occurrences around)
    fun o after => o.isSome → after = around.exposing t.exposes

variable {around : Surroundings} {go : Descent}

/-! ## Expressions -/

theorem looks_call (op : Operator) (operands : List Plan) (distinct : Bool) (span : Span) :
    Looks around (call op operands distinct span) [] (Same around) := by
  unfold call
  split
  · exact looks_pure rfl
  · exact looks_throw _

/-- The call that ends the conversion of an expression. -/
theorem looks_callSome (op : Operator) (operands : List Plan) (distinct : Bool) (span : Span) :
    Looks around (do return some (← call op operands distinct span)) [] (Present around) :=
  looks_step (looks_call op operands distinct span) fun _ => looks_pure ⟨rfl, rfl⟩

/-- A list of expressions looks up the owners in each of them, in order. -/
theorem looks_expressions (hgo : LooksAll go) (owner : SegmentKind) :
    ∀ xs : List Expr, Looks around (expressions go owner xs)
      (xs.flatMap (Expr.occurrences around)) (Present around)
  | [] => looks_pure ⟨rfl, rfl⟩
  | x :: xs => by
    refine looks_part (hgo.expr around x) fun p => ?_
    exact looks_lastPart (looks_expressions hgo owner xs) fun ps => looks_pure ⟨rfl, rfl⟩

/-- A binary operation looks up the owners on the left, and then those on the right. The literal of
a test has none. -/
theorem looks_binary (hgo : LooksAll go) (operators : OperatorTable) (left : Expr)
    (operator : String) (right : Expr) (span : Span) :
    Looks around (binary operators go left operator right span)
      ((Expr.binary left operator right span).occurrences around) (Present around) := by
  rw [Expr.occurrences]
  unfold binary
  split
  · split
    · exact looks_throw _
    · rename_i hright
      obtain ⟨value, span', rfl⟩ := eq_literal_of_literalTest? hright
      exact looks_part (hgo.expr around left) fun p => looks_callSome _ [p] false span
  · split
    · exact looks_throw _
    · exact looks_part (hgo.expr around left) fun p =>
        looks_lastPart (hgo.expr around right) fun q => looks_callSome _ [p, q] false span

theorem looks_negation (hgo : LooksAll go) (operand : Expr) (span : Span) :
    Looks around (negation go operand span)
      ((Expr.negation operand span).occurrences around) (Present around) := by
  rw [Expr.occurrences]
  exact looks_lastPart (hgo.expr around operand) fun p => looks_callSome _ [p] false span

/-- The right side of IN looks up its owners where it stands. -/
theorem looks_memberSource (hgo : LooksAll go) (right : Expr) :
    Looks around (memberSource go right) (right.occurrences around) (Present around) := by
  unfold memberSource
  split
  · rename_i query
    rw [Expr.occurrences, Subquery.occurrences_eq]
    exact hgo.select around query.select
  · exact hgo.expr around right

/-- IN looks up the owners on the left, and then those on the right. -/
theorem looks_membership (hgo : LooksAll go) (left right : Expr) (negated : Bool)
    (span : Span) :
    Looks around (membership go left right negated span)
      ((Expr.membership left right negated span).occurrences around) (Present around) := by
  rw [Expr.occurrences]
  exact looks_part (hgo.expr around left) fun p =>
    looks_lastPart (looks_memberSource hgo right) fun q => looks_callSome _ [p, q] false span

theorem looks_between (hgo : LooksAll go) (operand low high : Expr) (negated : Bool)
    (span : Span) :
    Looks around (between go operand low high negated span)
      ((Expr.between operand low high negated span).occurrences around) (Present around) := by
  refine Looks.congr (looks_lastPart (looks_expressions hgo .between [operand, low, high])
    fun ps => looks_callSome _ ps false span) ?_
  simp [Expr.occurrences]

theorem looks_list (hgo : LooksAll go) (items : List Expr) (span : Span) :
    Looks around (list go items span) ((Expr.list items span).occurrences around)
      (Present around) := by
  rw [Expr.occurrences_list]
  exact looks_lastPart (looks_expressions hgo .list items) fun ps => looks_pure ⟨rfl, rfl⟩

/-- The arguments of a call, once their number is right. -/
theorem looks_arguments (hgo : LooksAll go) (op : Operator) (arguments : List Expr)
    (span : Span) :
    Looks around (do
      if op.arity.accepts arguments.length then
        let some operands ← expressions go .function arguments | return none
        return some (← call op operands false span)
      else
        throw (.malformedSegment .function (.argumentCount op arguments.length) span))
      (arguments.flatMap (Expr.occurrences around)) (Present around) := by
  split
  · exact looks_lastPart (looks_expressions hgo .function arguments) fun ps =>
      looks_callSome op ps false span
  · exact looks_throw _

theorem looks_function (hgo : LooksAll go) (operators : OperatorTable) (name : String)
    (arguments : List Expr) (span : Span) :
    Looks around (function operators go name arguments span)
      ((Expr.function name arguments span).occurrences around) (Present around) := by
  rw [Expr.occurrences_function]
  simp only [function]
  generalize operators.resolveFunction name = op
  split
  · exact looks_step (looks_report rfl) fun _ => looks_arguments hgo _ arguments span
  · exact looks_arguments hgo _ arguments span

theorem looks_aggregateOperands (hgo : LooksAll go) (a : Aggregation) :
    Looks around (aggregateOperands go a) (a.occurrences around) (Present around) := by
  rw [Aggregation.occurrences_eq]
  simp only [aggregateOperands]
  split
  · rename_i hnone
    rw [List.isEmpty_iff.1 hnone]
    split
    · exact looks_pure ⟨rfl, rfl⟩
    · exact looks_throw _
  · split
    · exact looks_expressions hgo .aggregation a.arguments
    · exact looks_throw _

theorem looks_aggregation (hgo : LooksAll go) (a : Aggregation) :
    Looks around (aggregation go a) (a.occurrences around) (Present around) :=
  looks_lastPart (looks_aggregateOperands hgo a) fun ps => looks_callSome _ ps a.distinct a.span

/-- A subquery looks up its owners inside the SELECT around it. -/
theorem looks_subquery (hgo : LooksAll go) (query : Subquery) :
    Looks around (go (.select query.select)) (query.occurrences around) (Present around) := by
  rw [Subquery.occurrences_eq]
  exact hgo.select around query.select

theorem looks_scalarSubquery (hgo : LooksAll go) (query : Subquery) :
    Looks around (scalarSubquery go query) (query.occurrences around) (Present around) :=
  looks_lastPart (looks_subquery hgo query) fun p => looks_callSome _ [p] false query.span

theorem looks_existence (hgo : LooksAll go) (query : Subquery) (negated : Bool) (span : Span) :
    Looks around (existence go query negated span) (query.occurrences around)
      (Present around) := by
  refine looks_lastPart (looks_subquery hgo query) fun p => ?_
  refine looks_step (looks_call _ [p] false span) fun test => ?_
  split
  · exact looks_callSome _ [test] false span
  · exact looks_pure ⟨rfl, rfl⟩

/-- The branches of a CASE look up their owners in turns. -/
theorem looks_branches (hgo : LooksAll go) :
    ∀ whens thens : List Expr, Looks around (branches go whens thens)
      ((interleaved whens thens).flatMap (Expr.occurrences around)) (Present around)
  | [], _ => looks_pure ⟨rfl, rfl⟩
  | _ :: _, [] => looks_pure ⟨rfl, rfl⟩
  | w :: ws, t :: ts => by
    refine looks_part (hgo.expr around w) fun p => looks_part (hgo.expr around t) fun q => ?_
    exact looks_lastPart (looks_branches hgo ws ts) fun ps => looks_pure ⟨rfl, rfl⟩

theorem looks_caseOperand (hgo : LooksAll go) :
    ∀ operand : Option Expr, Looks around (caseOperand go operand)
      (branchOccurrences around operand) (Present around)
  | none => looks_pure ⟨rfl, rfl⟩
  | some x => looks_lastPart (hgo.expr around x) fun _ => looks_pure ⟨rfl, rfl⟩

theorem looks_caseOtherwise (hgo : LooksAll go) :
    ∀ otherwise : Option Expr, Looks around (caseOtherwise go otherwise)
      (branchOccurrences around otherwise) (Present around)
  | none => looks_pure ⟨rfl, rfl⟩
  | some x => hgo.expr around x

/-- A CASE looks up the owners of its operand, of its branches, and of its default. -/
theorem looks_caseWhen (hgo : LooksAll go) (operand : Option Expr) (whens thens : List Expr)
    (otherwise : Option Expr) (span : Span) :
    Looks around (caseWhen go operand whens thens otherwise span)
      ((Expr.caseWhen operand whens thens otherwise span).occurrences around)
      (Present around) := by
  unfold caseWhen
  split
  · exact looks_throw _
  · rename_i hcount
    simp only [Bool.or_eq_true, bne_iff_ne, not_or, not_not] at hcount
    rw [Expr.occurrences, eachOccurrences_eq, eachOccurrences_eq, inTurns_map _ hcount.2,
      List.append_assoc]
    refine looks_part (looks_caseOperand hgo operand) fun lead => ?_
    refine looks_part (looks_branches hgo whens thens) fun middle => ?_
    exact looks_lastPart (looks_caseOtherwise hgo otherwise) fun last =>
      looks_callSome _ (lead ++ middle ++ [last]) false span

/-- Whatever rule is applied to an expression, it looks up the owners of the expression. -/
theorem looks_exprRule (hgo : LooksAll go) (operators : OperatorTable) (rule : ExprRule)
    (x : Expr) :
    Looks around (rule.apply operators go x) (x.occurrences around) (Present around) := by
  unfold ExprRule.apply
  split
  · exact looks_map (looks_column _) fun _ _ hsame => ⟨rfl, hsame⟩
  · exact looks_pure ⟨rfl, rfl⟩
  · exact looks_pure ⟨rfl, rfl⟩
  · exact looks_binary hgo operators _ _ _ _
  · exact looks_negation hgo _ _
  · exact looks_membership hgo _ _ _ _
  · exact looks_between hgo _ _ _ _ _
  · exact looks_list hgo _ _
  · exact looks_function hgo operators _ _ _
  · exact looks_aggregation hgo _
  · exact looks_scalarSubquery hgo _
  · exact looks_existence hgo _ _ _
  · exact looks_caseWhen hgo _ _ _ _ _
  · exact looks_throw _

/-! ## Select-list items -/

theorem looks_named (settings : CompilerSettings) (kind : SegmentKind)
    (aliasName : Option String) (span : Span) (plan : Plan) :
    Looks around (named settings kind aliasName span plan) [] (Same around) := by
  unfold named
  cases aliasName with
  | some name => exact looks_pure rfl
  | none =>
    refine looks_step looks_context fun c => ?_
    split
    · exact looks_step (looks_report rfl) fun _ => looks_pure rfl
    · exact looks_pure rfl

/-- The name that ends the conversion of an item. -/
theorem looks_namedSome (settings : CompilerSettings) (kind : SegmentKind)
    (aliasName : Option String) (span : Span) (plan : Plan) :
    Looks around (do return some (← named settings kind aliasName span plan)) []
      (Present around) :=
  looks_step (looks_named settings kind aliasName span plan) fun _ => looks_pure ⟨rfl, rfl⟩

theorem looks_columnItem (c : Column) (aliasName : Option String) (span : Span) :
    Looks around (columnItem c aliasName span) (c.occurrences around) (Same around) := by
  refine looks_last (looks_column c) fun p after hsame => ?_
  cases aliasName <;> exact looks_pure hsame

/-- Whatever rule is applied to an item, it looks up the owners of the item. -/
theorem looks_projectionRule (hgo : LooksAll go) (settings : CompilerSettings)
    (rule : ProjectionRule) (x : Projection) :
    Looks around (rule.apply settings go x) (x.occurrences around) (Present around) := by
  unfold ProjectionRule.apply
  split
  · exact looks_map (looks_columnItem _ _ _) fun _ _ hsame => ⟨rfl, hsame⟩
  · exact looks_lastPart (hgo.expr around _) fun p => looks_namedSome _ _ _ _ p
  · exact looks_lastPart (looks_aggregation hgo _) fun p => looks_namedSome _ _ _ _ p
  · exact looks_pure ⟨rfl, rfl⟩
  · exact looks_lastPart (looks_scalarSubquery hgo _) fun p => looks_namedSome _ _ _ _ p
  · exact looks_throw _

/-! ## Tables -/

/-- A table by its name looks up nothing, and exposes the name it goes by. -/
theorem looks_simpleTable (t : SimpleTable) :
    Looks around (simpleTable t) [] fun _ after => after = around.exposing [t.bindingName] := by
  refine looks_binding ?_
  dsimp only
  split
  · exact looks_pure rfl
  · exact looks_pure rfl

/-- A table that must not convert to nothing. -/
theorem looks_filled (hgo : LooksAll go) (t : Table) {f : Option Plan → ConvertM Plan}
    {e : ConvertError} (hnone : f none = throw e) (hsome : ∀ p, f (some p) = pure p) :
    Looks around (go (.table t) >>= f) (t.occurrences around)
      fun _ after => after = around.exposing t.exposes := by
  refine looks_last (hgo.table around t) fun o after hafter => ?_
  cases o with
  | none =>
    rw [hnone]
    exact looks_throw e
  | some p =>
    rw [hsome]
    exact looks_pure (hafter rfl)

/-- The condition of a join is looked up where the tables of the join are known. -/
theorem looks_joinCondition (hgo : LooksAll go) (condition : Option Expr)
    (columns : List Column) :
    Looks around (joinCondition go condition columns) (branchOccurrences around condition)
      (Same around) := by
  cases condition with
  | some x => exact looks_lastPart (hgo.expr around x) fun _ => looks_pure rfl
  | none =>
    unfold joinCondition
    dsimp only
    split
    · exact looks_pure rfl
    · exact looks_pure rfl

/-- A join looks up the owners in its sides and then those of its condition, and exposes what both
sides expose. -/
theorem looks_joinTable (hgo : LooksAll go) (left right : Table) (type : JoinType)
    (natural : Bool) (condition : Option Expr) (columns : List Column) (span : Span) :
    Looks around (joinTable go left right type natural condition columns span)
      ((Table.join left right type natural condition columns span).occurrences around)
      fun _ after => after = around.exposing
        (Table.join left right type natural condition columns span).exposes := by
  unfold joinTable
  split
  · exact looks_throw _
  · rw [Table.occurrences, Table.exposes, List.append_assoc]
    refine looks_bind (looks_filled hgo left rfl fun _ => rfl) ?_
    rintro p _ rfl
    refine looks_bind (looks_filled hgo right rfl fun _ => rfl) ?_
    rintro q _ rfl
    refine looks_last (looks_joinCondition hgo condition columns) ?_
    rintro matched _ rfl
    exact looks_pure (around.exposing_exposing left.exposes right.exposes)

/-- A SELECT about whose surroundings nothing is said. -/
theorem looks_detached (hgo : LooksAll go) (q : Select) :
    Looks around (go (.select q)) (q.occurrences .anywhere) (Present around) := by
  have h : Looks .anywhere (go (.select q)) (q.occurrences .anywhere) fun o _ => o.isSome :=
    (hgo.select .anywhere q).mono fun _ _ h => h.1
  exact h.of_anywhere.of_keeps (hgo.keeps (.select q))

/-- The end of a derived table without a select list, which its source may have to do without. -/
theorem looks_explicitEnd {target : Surroundings} (span : Span) :
    ∀ o : Option Plan, (o.isSome → around = target) →
      Looks around (match o with
        | some plan => pure (some plan.explicitTable)
        | none => do
          report (.sourceMissing span)
          pure none) [] fun o after => o.isSome → after = target
  | none, _ => looks_step (looks_report rfl) fun _ => looks_pure fun h => by cases h
  | some _, h => looks_pure h

/-- The source of a derived table is a SELECT with its own scope, or a table that exposes its names
to what follows. -/
theorem looks_derivedSource (hgo : LooksAll go) (query : Subquery) (aliasName : Option String)
    (span : Span) :
    Looks around (derivedSource go query.select span)
      ((Table.subquery query aliasName span).occurrences around)
      fun o after => o.isSome → after = around.exposing query.exposes := by
  unfold derivedSource
  split
  · rename_i l hlist
    have hsome : query.select.projections.isSome := by rw [hlist, Option.isSome_some]
    rw [Table.occurrences_derived _ _ _ hsome, Subquery.exposes_derived hsome,
      Surroundings.exposing_nil]
    exact (looks_detached hgo query.select).mono fun _ _ h _ => h.2
  · rename_i hlist
    rw [Table.occurrences_explicit _ _ _ hlist, Subquery.exposes_explicit hlist]
    cases query.select.source with
    | none =>
      refine looks_last (looks_pure (Q := fun o _ => o = none) rfl) ?_
      rintro _ after rfl
      exact looks_explicitEnd span none fun h => by cases h
    | some table =>
      exact looks_last (hgo.table around table) fun o _ hafter => looks_explicitEnd span o hafter

/-- A derived table exposes its alias, and the names that its source lets through. -/
theorem looks_subqueryTable (hgo : LooksAll go) (query : Subquery) (aliasName : Option String)
    (span : Span) :
    Looks around (subqueryTable go query aliasName span)
      ((Table.subquery query aliasName span).occurrences around)
      fun o after => o.isSome →
        after = around.exposing (Table.subquery query aliasName span).exposes := by
  refine looks_last (looks_derivedSource hgo query aliasName span) fun o after hafter => ?_
  rw [Table.exposes]
  cases o with
  | none => exact looks_pure fun h => by cases h
  | some source =>
    obtain rfl := hafter rfl
    cases aliasName with
    | none =>
      refine looks_pure fun _ => ?_
      rw [Option.toList_none, List.append_nil]
    | some name =>
      refine looks_binding (looks_pure fun _ => ?_)
      rw [Surroundings.exposing_exposing, Option.toList_some]

/-- Whatever rule is applied to a table, it looks up the owners of the table and exposes its
names. -/
theorem looks_tableRule (hgo : LooksAll go) (rule : TableRule) (t : Table) :
    Looks around (rule.apply go t) (t.occurrences around)
      fun o after => o.isSome → after = around.exposing t.exposes := by
  unfold TableRule.apply
  split
  · rw [Table.occurrences, Table.exposes]
    exact looks_map (looks_simpleTable _) fun _ _ hafter _ => hafter
  · exact looks_map (looks_joinTable hgo _ _ _ _ _ _ _) fun _ _ hafter _ => hafter
  · exact looks_subqueryTable hgo _ _ _
  · exact looks_throw _

/-! ## Clauses -/

section Clauses

variable {occurrences : α → List Occurrence}

theorem looks_required {m : ConvertM (Option α)} {os : List Occurrence}
    (hm : Looks around m os (Same around)) (clause : Clause) (span : Span) :
    Looks around (required clause span m) os (Same around) := by
  refine looks_last hm fun o after hafter => ?_
  cases o with
  | none => exact looks_throw _
  | some a => exact looks_pure hafter

theorem looks_whenPresent {f : α → ConvertM β}
    (hf : ∀ a, Looks around (f a) (occurrences a) (Same around)) (x : Option α) :
    Looks around (whenPresent f x) (x.toList.flatMap occurrences) (Same around) := by
  cases x with
  | none => exact looks_pure rfl
  | some a =>
    rw [Option.toList_some, List.flatMap_singleton]
    exact (hf a).map _

theorem looks_kept {f : α → ConvertM (Option Plan)}
    (hf : ∀ a, Looks around (f a) (occurrences a) (Same around)) :
    ∀ as : List α, Looks around (kept f as) (as.flatMap occurrences) (Same around)
  | [] => looks_pure rfl
  | a :: as => by
    refine looks_then (hf a) fun o => ?_
    exact looks_last (looks_kept hf as) fun _ _ hsame => looks_pure hsame

/-- The keys of a clause that must not be empty. -/
theorem looks_keys {f : α → ConvertM (Option Plan)} (clause : Clause) (span : Span)
    (hf : ∀ a, Looks around (f a) (occurrences a) (Same around)) (as : List α) :
    Looks around (required clause span (nonEmpty <$> kept f as)) (as.flatMap occurrences)
      (Same around) :=
  looks_required ((looks_kept hf as).map _) clause span

end Clauses

theorem looks_itemKey (hgo : LooksAll go) (item : OrderItem) :
    Looks around (itemKey go item) (item.occurrences around) (Present around) := by
  unfold itemKey
  split
  · exact looks_map (looks_column _) fun _ _ hsame => ⟨rfl, hsame⟩
  · exact hgo.expr around _
  · split
    · exact looks_pure ⟨rfl, rfl⟩
    · exact looks_throw _

/-- An item of ORDER BY looks up the owners of its key. -/
theorem looks_orderItem (hgo : LooksAll go) (item : OrderItem) :
    Looks around (orderItem go item) (item.occurrences around) (Same around) := by
  refine looks_lastPart (looks_itemKey hgo item) fun key => ?_
  have hdirected : Looks around (directed item.direction item.span key) [] (Same around) := by
    unfold directed
    split
    · exact looks_call _ _ _ _
    · exact looks_pure rfl
  refine looks_step hdirected fun key => ?_
  have hplaced : Looks around (nullsPlaced item.nulls key) [] (Same around) := by
    unfold nullsPlaced
    split
    · exact looks_call _ _ _ _
    · exact looks_call _ _ _ _
    · exact looks_pure rfl
  exact looks_step hplaced fun _ => looks_pure rfl

theorem looks_orderClause {f : OrderItem → ConvertM (Option Plan)} (clause : Clause)
    (hf : ∀ item, Looks around (f item) (item.occurrences around) (Same around))
    (c : Option OrderClause) :
    Looks around
      (whenPresent (fun c => required clause c.span (nonEmpty <$> kept f c.items)) c)
      (orderOccurrences around c) (Same around) := by
  rw [orderOccurrences_eq]
  exact looks_whenPresent (fun c => looks_keys clause c.span hf c.items) c

theorem looks_condition (hgo : LooksAll go) (clause : Clause)
    (c : Option SqlAlgebra.Condition) :
    Looks around (whenPresent (fun c => required clause c.span (condition go c)) c)
      (conditionOccurrences around c) (Same around) := by
  rw [conditionOccurrences_eq]
  refine looks_whenPresent (fun c => looks_required ?_ clause c.span) c
  exact (hgo.expr around c.expr).mono fun _ _ h => h.2

theorem looks_selectItems (hgo : LooksAll go) :
    ∀ (ordinal : Nat) (ps : List Projection), Looks around (selectItems go ordinal ps)
      (itemOccurrences around ps) (Same around)
  | _, [] => looks_pure rfl
  | ordinal, p :: ps => by
    rw [itemOccurrences]
    refine looks_step (looks_setOrdinal ordinal) fun _ => ?_
    refine looks_part (hgo.item around p) fun plan => ?_
    exact looks_last (looks_selectItems hgo (ordinal + 1) ps) fun _ _ hsame => looks_pure hsame

theorem looks_selectList (hgo : LooksAll go) (l : Option SelectList) :
    Looks around (whenPresent
      (fun l => (·, l.distinct) <$> required .selectList l.span (selectList go l)) l)
      (listOccurrences around l) (Same around) := by
  rw [listOccurrences_eq]
  refine looks_whenPresent (fun l => Looks.map _ ?_) l
  exact looks_required ((looks_selectItems hgo 0 l.items).map _) .selectList l.span

theorem looks_page (value : Option PageValue) :
    Looks around (whenPresent pageValue value) [] (Same around) := by
  have hvalue : ∀ value, Looks around (pageValue value) [] (Same around) := by
    intro value
    unfold pageValue
    split
    · split
      · exact looks_pure rfl
      · exact looks_throw _
    · exact looks_pure rfl
  exact (looks_whenPresent hvalue value).congr (by simp)

/-- The right side of a set operation looks up its owners, wherever it stands. -/
theorem looks_combine (hgo : LooksAll go) (c : Option Combine) :
    Looks around (whenPresent
      (fun c => (c.type, ·) <$> required .combine c.span (combine go c)) c)
      (combineOccurrences c) (Same around) := by
  rw [combineOccurrences_eq]
  refine looks_whenPresent (fun c => Looks.map _ ?_) c
  exact looks_required ((looks_detached hgo c.query.select).mono fun _ _ h => h.2) .combine c.span

/-! ## SELECTs -/

/-- The source of a SELECT exposes its names to all the other clauses. -/
theorem looks_source (hgo : LooksAll go) (source : Option Table) :
    Looks around (Conversion.source go source) (sourceOccurrences around source)
      fun _ after => after = around.exposing (sourceExposes source) := by
  cases source with
  | none => exact looks_pure around.exposing_nil.symm
  | some t => exact looks_filled hgo t rfl fun _ => rfl

/-- The clauses of a SELECT look up their owners on a level of their own. -/
theorem looks_selectParts (hgo : LooksAll go) (q : Select) :
    Looks around.opened (selectParts go q) (q.occurrences around) fun _ _ => True := by
  rw [Select.occurrences_eq]
  simp only [List.append_assoc]
  refine looks_bind (looks_source hgo q.source) ?_
  rintro relation _ rfl
  refine looks_then (looks_condition hgo .condition q.condition) fun _ => ?_
  refine looks_then (looks_orderClause .groupBy
    (fun item => (looks_itemKey hgo item).mono fun _ _ h => h.2) q.groupBy) fun _ => ?_
  refine looks_then (looks_condition hgo .having q.having) fun _ => ?_
  refine looks_then (looks_selectList hgo q.projections) fun _ => ?_
  refine looks_then (looks_orderClause .orderBy (looks_orderItem hgo) q.orderBy) fun _ => ?_
  refine looks_step (looks_page (q.limit.bind Limit.offset)) fun _ => ?_
  refine looks_step (looks_page (q.limit.bind Limit.rowCount)) fun _ => ?_
  exact looks_last (looks_combine hgo q.combine) fun _ _ _ => looks_pure trivial

/-- A SELECT leaves the surroundings as they were. -/
theorem looks_select (hgo : LooksAll go) (q : Select) :
    Looks around (some <$> Conversion.select go q) (q.occurrences around) (Present around) := by
  have hscope : Looks around (Conversion.select go q) (q.occurrences around) fun _ _ => True :=
    looks_inScope (looks_map (looks_selectParts hgo q) fun _ _ h => h)
  have hsome : Looks around (some <$> Conversion.select go q) (q.occurrences around)
      fun o _ => o.isSome := looks_map hscope fun _ _ _ => rfl
  exact hsome.of_keeps ((program_map some (program_nestedSelect q)).keeps hgo.keeps)

/-! ## Statements -/

theorem looks_columns : ∀ cs : List Column, Looks around (columns cs)
    (cs.flatMap (Column.occurrences around)) (Same around)
  | [] => looks_pure rfl
  | c :: cs => by
    refine looks_then (looks_column c) fun _ => ?_
    exact (looks_last (looks_columns cs)) fun _ _ hsame => looks_pure hsame

theorem looks_assignments (hgo : LooksAll go) :
    ∀ as : List Assignment, Looks around (assignments go as)
      (assignmentOccurrences around as) (Present around)
  | [] => looks_pure ⟨rfl, rfl⟩
  | a :: as => by
    unfold assignments
    split
    · rename_i c hcolumns
      have hoccurrences : assignmentOccurrences around (a :: as) = c.occurrences around ++
          (a.value.occurrences around ++ assignmentOccurrences around as) := by
        simp [assignmentOccurrences, hcolumns]
      rw [hoccurrences]
      refine looks_then (looks_column c) fun name => ?_
      refine looks_part (hgo.expr around a.value) fun value => ?_
      exact looks_lastPart (looks_assignments hgo as) fun _ => looks_pure ⟨rfl, rfl⟩
    · exact looks_throw _

theorem looks_valuesRows (hgo : LooksAll go) (width : Nat) :
    ∀ rows : List ValuesRow, Looks around (valuesRows go width rows)
      (rows.flatMap fun row => row.values.flatMap (Expr.occurrences around)) (Present around)
  | [] => looks_pure ⟨rfl, rfl⟩
  | row :: rows => by
    unfold valuesRows
    split
    · refine looks_part (looks_expressions hgo .insertStatement row.values) fun values => ?_
      exact looks_lastPart (looks_valuesRows hgo width rows) fun _ => looks_pure ⟨rfl, rfl⟩
    · exact looks_throw _

/-- An INSERT looks up the owners in its one source, whichever that is. -/
theorem looks_insertSource (hgo : LooksAll go) {x : Insert} (hcount : x.sourceCount = 1)
    (listed : List Plan) :
    Looks around (insertSource go x listed)
      ((x.set.toList.flatMap fun set => assignmentOccurrences around set.assignments) ++
        x.query.toList.flatMap (Subquery.occurrences around) ++
        x.rows.flatMap fun row => row.values.flatMap (Expr.occurrences around))
      (Present around) := by
  unfold insertSource
  split
  · rename_i set hset
    obtain ⟨hquery, hrows⟩ := Insert.only_set hcount hset
    split
    · refine Looks.congr (looks_lastPart (looks_assignments hgo set.assignments)
        fun _ => looks_pure ⟨rfl, rfl⟩) ?_
      simp [hset, hquery, hrows]
    · exact looks_throw _
  · rename_i query hset hquery
    have hselect : Looks around (required .selectList query.span (go (.select query.select)))
        (query.occurrences around) (Same around) :=
      looks_required ((looks_subquery hgo query).mono fun _ _ h => h.2) .selectList query.span
    refine Looks.congr (looks_last hselect fun _ _ hsame => looks_pure ⟨rfl, hsame⟩) ?_
    simp [hset, hquery, Insert.only_query hcount hquery]
  · rename_i hset hquery
    refine Looks.congr (looks_lastPart (looks_valuesRows hgo x.width x.rows)
      fun _ => looks_pure ⟨rfl, rfl⟩) ?_
    simp [hset, hquery]

/-- An INSERT looks up its owners on a level of its own. -/
theorem looks_insert (hgo : LooksAll go) (x : Insert) :
    Looks .outermost (Conversion.insert go x) (Statement.insert x).occurrences
      fun o _ => o.isSome := by
  unfold Conversion.insert
  split
  · rename_i hcount
    refine looks_inScope (looks_binding ?_)
    simp only [Statement.occurrences, List.append_assoc]
    refine looks_then (looks_columns x.columns) fun listed => ?_
    rw [← List.append_assoc]
    exact looks_lastPart (looks_insertSource hgo hcount listed) fun _ => looks_pure rfl
  · exact looks_throw _

/-- A modification with ORDER BY or LIMIT is refused before anything is looked up. -/
theorem looks_unordered {m : ConvertM α} {os : List Occurrence} {Q : α → Surroundings → Prop}
    (modification : Modification) (orderBy : Option OrderClause) (limit : Option Limit)
    (span : Span) (hm : Looks around m os Q) :
    Looks around (unordered modification orderBy limit span m) os Q := by
  unfold unordered
  split
  · exact looks_throw _
  · exact hm

/-- An UPDATE looks up its owners on a level of its own, where its target is known. -/
theorem looks_update (hgo : LooksAll go) (x : Update) :
    Looks .outermost (update go x) (Statement.update x).occurrences fun o _ => o.isSome := by
  refine looks_unordered _ _ _ _ (looks_inScope ?_)
  simp only [Statement.occurrences, List.append_assoc]
  refine looks_bind (looks_filled hgo x.table rfl fun _ => rfl) ?_
  rintro relation _ rfl
  refine looks_part (looks_assignments hgo x.set.assignments) fun set => ?_
  dsimp only
  split
  · exact looks_throw _
  · exact looks_last (looks_condition hgo .condition x.condition) fun _ _ _ => looks_pure rfl

/-- A DELETE looks up its owners on a level of its own, where its target is known. -/
theorem looks_delete (hgo : LooksAll go) (x : Delete) :
    Looks .outermost (Conversion.delete go x) (Statement.delete x).occurrences
      fun _ _ => True := by
  refine looks_unordered _ _ _ _ (looks_inScope ?_)
  simp only [Statement.occurrences]
  refine looks_bind (looks_filled hgo x.table rfl fun _ => rfl) ?_
  rintro relation _ rfl
  exact looks_last (looks_condition hgo .condition x.condition) fun _ _ _ => looks_pure trivial

/-- Whatever rule is applied to a statement, it looks up the owners of the statement. -/
theorem looks_statementRule (hgo : LooksAll go) (rule : StatementRule) (st : Statement) :
    Looks .outermost (rule.apply go st) st.occurrences fun o _ => o.isSome := by
  unfold StatementRule.apply
  split
  · exact (looks_select hgo _).mono fun _ _ h => h.1
  · exact looks_insert hgo _
  · exact looks_update hgo _
  · exact looks_map (looks_delete hgo _) fun _ _ _ => rfl
  · exact looks_throw _

/-! ## Conversions -/

/-- A segment looks up what its rule looks up, unless it is refused. -/
theorem looks_handled {ρ : Type} {handler : Handler ρ} {rule : ρ → ConvertM (Option Plan)}
    {x : Segment} {os : List Occurrence} {Q : Option Plan → Surroundings → Prop}
    (hdirect : handler.isDirect) (hrule : ∀ r, Looks around (rule r) os Q) :
    Looks around (handled handler rule go x) os Q := by
  cases handler with
  | rule r => exact hrule r
  | absent => cases hdirect
  | redispatch => cases hdirect
  | unsupported =>
    refine looks_step looks_context fun c => ?_
    exact looks_step (looks_report rfl) fun _ => looks_throw _

namespace Compiler

variable (settings : CompilerSettings) (operators : OperatorTable)

/-- A segment is looked through as its rule does. -/
theorem looks_convertWithin {levels : Nat} {x : Segment} {os : List Occurrence}
    {Q : Option Plan → Surroundings → Prop}
    (h : Looks around ((standard settings operators).convertEntered
      ((standard settings operators).convertWithin levels) x) os Q) :
    Looks around ((standard settings operators).convertWithin (levels + 1) x) os Q := by
  refine looks_step looks_context fun c => ?_
  refine looks_step (looks_report ?_) fun _ => looks_entering h
  cases x <;> rfl

/-- With any number of levels, a conversion looks up the owners in the segment it is given. -/
theorem looksAll_convertWithin : ∀ levels : Nat,
    LooksAll ((standard settings operators).convertWithin levels)
  | 0 => {
      keeps := keeps_convertWithin _ 0
      expr := fun _ _ => looks_throw _
      select := fun _ _ => looks_throw _
      item := fun _ _ => looks_throw _
      table := fun _ _ => looks_throw _ }
  | levels + 1 => by
    have hgo := looksAll_convertWithin levels
    exact {
      keeps := keeps_convertWithin _ (levels + 1)
      expr := fun _ x => looks_convertWithin settings operators
        (looks_handled (isDirect_handler_ofRules _ _ _) fun r => looks_exprRule hgo operators r x)
      select := fun _ q => looks_convertWithin settings operators (looks_select hgo q)
      item := fun _ p => looks_convertWithin settings operators
        (looks_handled (isDirect_handler_ofRules _ _ _) fun r =>
          looks_projectionRule hgo settings r p)
      table := fun _ t => looks_convertWithin settings operators
        (looks_handled (isDirect_handler_ofRules _ _ _) fun r => looks_tableRule hgo r t) }

/-- With any number of levels, a statement looks up its owners from outside of everything. -/
theorem looks_convertStatement : ∀ (levels : Nat) (st : Statement),
    Looks .outermost ((standard settings operators).convertWithin levels (.statement st))
      st.occurrences fun o _ => o.isSome
  | 0, _ => looks_throw _
  | levels + 1, st => looks_convertWithin settings operators
      (looks_handled (isDirect_handler_ofRules _ _ _) fun r =>
        looks_statementRule (looksAll_convertWithin settings operators levels) r st)

/-- The owners in a statement are looked up in order, each with the answer that is right where
it stands: all of them, unless the conversion fails. -/
theorem lookups_run (st : Statement) :
    ∃ seen, seen <+: st.occurrences ∧
      List.Forall₂ Occurrence.Answered seen
        ((⟨settings, .standard⟩ : Compiler).run st {}).2.lookups ∧
      ∀ o, (⟨settings, .standard⟩ : Compiler).tryConvert st = .ok o →
        seen = st.occurrences := by
  have hlooks := looks_convertStatement settings .standard settings.maxDepth.toNat st
  have hfits : Surroundings.outermost.Fits ({} : Session).context := ⟨[], rfl, fun _ => rfl⟩
  have hrun : ((standard settings .standard).convertWithin settings.maxDepth.toNat
      (.statement st)).outcome {} = (⟨settings, .standard⟩ : Compiler).run st {} := rfl
  rw [tryConvert]
  rcases hresult : (⟨settings, .standard⟩ : Compiler).run st {} with ⟨e | o, t⟩
  · obtain ⟨seen, hseen, found, hfound, hanswers⟩ := hlooks.error hfits (hrun.trans hresult)
    obtain rfl : t.lookups = found := hfound
    exact ⟨seen, hseen, hanswers, fun _ h => by cases h⟩
  · obtain ⟨⟨found, hfound, hanswers⟩, -⟩ := hlooks.ok hfits (hrun.trans hresult)
    obtain rfl : t.lookups = found := hfound
    exact ⟨st.occurrences, List.prefix_rfl, hanswers, fun _ _ => rfl⟩

/-- `SELECT t.a FROM t WHERE EXISTS (SELECT T.b FROM u)`. -/
def correlatedQuery : Statement :=
  .select ⟨some ⟨false, [.column { name := "a", owner := some "t" } none .zero], .zero⟩,
    some (.simple { name := "t" }),
    some ⟨.existence ⟨⟨some ⟨false, [.column { name := "b", owner := some "T" } none .zero],
      .zero⟩, some (.simple { name := "u" }), none, none, none, none, none, none, .zero⟩, .zero⟩
      false .zero, .zero⟩, none, none, none, none, none, .zero⟩

example : correlatedQuery.occurrences =
    [⟨"T", "b", ⟨[["u"], ["t"]], true⟩⟩, ⟨"t", "a", ⟨[["t"]], true⟩⟩] := by
  decide

example : (({} : Compiler).run correlatedQuery {}).2.lookups =
    [⟨"T", "b", some 1⟩, ⟨"t", "a", some 0⟩] := by
  decide

/-- `SELECT t.a FROM (TABLE t) AS x`. -/
def explicitSource : Statement :=
  .select ⟨some ⟨false, [.column { name := "a", owner := some "t" } none .zero], .zero⟩,
    some (.subquery ⟨⟨none, some (.simple { name := "t" }), none, none, none, none, none, none,
      .zero⟩, .zero⟩ (some "x") .zero),
    none, none, none, none, none, none, .zero⟩

/-- In `explicitSource` the name inside the derived table is found, although it is not the
alias of the derived table. -/
theorem lookups_run_explicitSource :
    (({} : Compiler).run explicitSource {}).2.lookups = [⟨"t", "a", some 0⟩] ∧
    ¬ (⟨[["x"]], true⟩ : Surroundings).Resolves "t" (some 0) := by
  refine ⟨by decide, fun h => ?_⟩
  obtain ⟨⟨names, hnames, name, hname, hsame⟩, -⟩ := (h.nearest 0 (.inl rfl)).1 rfl
  obtain rfl : names = ["x"] := (Option.some.inj hnames).symm
  obtain rfl := List.mem_singleton.1 hname
  exact absurd hsame (by decide)

end Compiler

end SqlAlgebra
