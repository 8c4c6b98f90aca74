import SqlAlgebra.Proofs.Run

/-!
# Conversions as programs

Every conversion rule is put together from a few steps: it ends with a value or a failure,
makes a remark, writes down a column, hands a part of its segment to the descent, binds a
name, or opens a scope for further steps. `Program e F` says so for a rule `F`, taken as a
function of the descent; the effect `e` bounds what the rule may do to the context around it.
A property of all conversions needs a proof for each of these steps, and no longer one for
each rule: `convertEntered_cases` says that a segment is either refused or converted by a
program whose effect is the effect of the segment, whatever the registry.
-/

namespace SqlAlgebra

/-- What a conversion may do to the context around it. -/
inductive Effect
  /-- Nothing. -/
  | quiet
  /-- Nothing, but it may look at the position in the select list. -/
  | naming
  /-- Bind names in the innermost scope. -/
  | binding
  /-- Change the innermost scope. -/
  | inner
deriving DecidableEq, Repr

/-- Whether a conversion with the first effect may be a part of one with the second. -/
def Effect.within : Effect → Effect → Bool
  | quiet, _ => true
  | binding, inner => true
  | e, f => e == f

/-- The effect of converting a segment. -/
def Segment.effect : Segment → Effect
  | table _ => .binding
  | projection _ => .naming
  | expression _ | statement _ | select _ => .quiet

/-- A failure as it is seen from outside the segments of `path`. Only the refusal of a
segment tells where it arose. -/
def ConvertError.under (path : List SegmentKind) : ConvertError → ConvertError
  | unsupportedSegment kind span rest => unsupportedSegment kind span (path ++ rest)
  | e => e

/-! ## Programs -/

open Conversion ConvertM

/-- `F` is put together from the steps of a conversion, with at most the effect `e`. -/
inductive Program : Effect → {α : Type} → (Descent → ConvertM α) → Prop
  | pure {e : Effect} {α : Type} (a : α) : Program e fun _ => pure a
  | fail {e : Effect} {α : Type} (error : ConvertError)
      (h : ∀ path, error.under path = error) : Program e fun _ => (throw error : ConvertM α)
  | report {e : Effect} (event : Event) (h : event.level = .debug) :
    Program e fun _ => ConvertM.report event
  | column {e : Effect} (c : Column) : Program e fun _ => Conversion.column c
  | named (settings : CompilerSettings) (kind : SegmentKind) (aliasName : Option String)
      (span : Span) (plan : Plan) :
    Program .naming fun _ => Conversion.named settings kind aliasName span plan
  | bindAlias {e : Effect} (name : String) (h : Effect.binding.within e) :
    Program e fun _ => modifyContext (.bindAlias name)
  | descend {e : Effect} (s : Segment) (h : s.effect.within e) : Program e fun go => go s
  /-- An item of a select list is converted at its position. -/
  | item (ordinal : Nat) (p : Projection) :
    Program .inner fun go => do
      modifyContext (.setOrdinal ordinal)
      go (.projection p)
  | inScope {e : Effect} {α : Type} {F : Descent → ConvertM α} (h : Program .inner F) :
    Program e fun go => ConvertM.inScope (F go)
  | bind {e : Effect} {α β : Type} {F : Descent → ConvertM α} {G : α → Descent → ConvertM β}
      (hF : Program e F) (hG : ∀ a, Program e (G a)) : Program e fun go => F go >>= fun a => G a go

variable {e : Effect} {α β : Type}

/-- A program may go on with a function of its value. -/
theorem program_map {F : Descent → ConvertM α} (f : α → β) (h : Program e F) :
    Program e fun go => f <$> F go := by
  simp only [map_eq_pure_bind]
  exact .bind h fun a => .pure (f a)

/-! ## Expressions -/

/-- A call checks the number of its operands and does nothing else. -/
theorem program_call (op : Operator) (operands : List Plan) (distinct : Bool) (span : Span) :
    Program e fun _ => call op operands distinct span := by
  unfold call
  split
  · exact .pure _
  · exact .fail _ fun _ => rfl

/-- The call that ends the conversion of an expression. -/
theorem program_callSome (op : Operator) (operands : List Plan) (distinct : Bool)
    (span : Span) : Program e fun _ => (do return some (← call op operands distinct span)) :=
  .bind (program_call op operands distinct span) fun _ => .pure _

theorem program_expression (x : Expr) : Program e fun go => go (.expression x) :=
  .descend (.expression x) rfl

theorem program_select (q : Select) : Program e fun go => go (.select q) :=
  .descend (.select q) rfl

/-- A list of expressions is converted in order, up to the first that is absent. -/
theorem program_expressions (owner : SegmentKind) :
    ∀ xs : List Expr, Program e fun go => expressions go owner xs
  | [] => .pure _
  | x :: xs => by
    refine .bind (program_expression x) fun
      | none => .bind (.report _ rfl) fun _ => .pure none
      | some plan => ?_
    exact .bind (program_expressions owner xs) fun
      | none => .pure none
      | some plans => .pure _

theorem program_binary (operators : OperatorTable) (left : Expr) (operator : String)
    (right : Expr) (span : Span) :
    Program e fun go => binary operators go left operator right span := by
  unfold binary
  split
  · split
    · exact .fail _ fun _ => rfl
    · exact .bind (program_expression left) fun
        | none => .pure none
        | some _ => program_callSome _ _ _ _
  · split
    · exact .fail _ fun _ => rfl
    · refine .bind (program_expression left) fun
        | none => .pure none
        | some _ => ?_
      exact .bind (program_expression right) fun
        | none => .pure none
        | some _ => program_callSome _ _ _ _

theorem program_negation (operand : Expr) (span : Span) :
    Program e fun go => negation go operand span :=
  .bind (program_expression operand) fun
    | none => .pure none
    | some _ => program_callSome _ _ _ _

theorem program_memberSource (right : Expr) : Program e fun go => memberSource go right := by
  unfold memberSource
  split
  · exact program_select _
  · exact program_expression _

theorem program_membership (left right : Expr) (negated : Bool) (span : Span) :
    Program e fun go => membership go left right negated span := by
  refine .bind (program_expression left) fun
    | none => .pure none
    | some _ => ?_
  exact .bind (program_memberSource right) fun
    | none => .pure none
    | some _ => program_callSome _ _ _ _

theorem program_between (operand low high : Expr) (negated : Bool) (span : Span) :
    Program e fun go => between go operand low high negated span :=
  .bind (program_expressions _ _) fun
    | none => .pure none
    | some _ => program_callSome _ _ _ _

theorem program_list (items : List Expr) (span : Span) :
    Program e fun go => list go items span :=
  .bind (program_expressions _ _) fun
    | none => .pure none
    | some _ => .pure _

/-- Arguments are counted before any of them is converted. -/
theorem program_arguments (op : Operator) (arguments : List Expr) (span : Span) :
    Program e fun go => (do
      if op.arity.accepts arguments.length then
        let some operands ← expressions go .function arguments | return none
        return some (← call op operands false span)
      else
        throw (.malformedSegment .function (.argumentCount op arguments.length) span)) := by
  split
  · exact .bind (program_expressions _ _) fun
      | none => .pure none
      | some _ => program_callSome _ _ _ _
  · exact .fail _ fun _ => rfl

theorem program_function (operators : OperatorTable) (name : String) (arguments : List Expr)
    (span : Span) : Program e fun go => function operators go name arguments span := by
  unfold function
  dsimp only
  split
  · exact .bind (.report _ rfl) fun _ => program_arguments _ _ _
  · exact program_arguments _ _ _

theorem program_aggregateOperands (a : Aggregation) :
    Program e fun go => aggregateOperands go a := by
  unfold aggregateOperands
  dsimp only
  split
  · split
    · exact .pure _
    · exact .fail _ fun _ => rfl
  · split
    · exact program_expressions _ _
    · exact .fail _ fun _ => rfl

theorem program_aggregation (a : Aggregation) : Program e fun go => aggregation go a :=
  .bind (program_aggregateOperands a) fun
    | none => .pure none
    | some _ => program_callSome _ _ _ _

theorem program_scalarSubquery (query : Subquery) :
    Program e fun go => scalarSubquery go query :=
  .bind (program_select _) fun
    | none => .pure none
    | some _ => program_callSome _ _ _ _

theorem program_existence (query : Subquery) (negated : Bool) (span : Span) :
    Program e fun go => existence go query negated span := by
  refine .bind (program_select _) fun
    | none => .pure none
    | some _ => .bind (program_call _ _ _ _) fun _ => ?_
  cases negated with
  | false => exact .pure _
  | true => exact program_callSome _ _ _ _

/-- The branches of a CASE are converted in turns, a condition and then its result. -/
theorem program_branches :
    ∀ whens thens : List Expr, Program e fun go => branches go whens thens
  | w :: ws, t :: ts => by
    refine .bind (program_expression w) fun
      | none => .pure none
      | some _ => ?_
    refine .bind (program_expression t) fun
      | none => .pure none
      | some _ => ?_
    exact .bind (program_branches ws ts) fun
      | none => .pure none
      | some _ => .pure _
  | [], _ => .pure _
  | _ :: _, [] => .pure _

theorem program_caseOperand : ∀ operand : Option Expr, Program e fun go => caseOperand go operand
  | none => .pure _
  | some x => .bind (program_expression x) fun
    | none => .pure none
    | some _ => .pure _

theorem program_caseOtherwise :
    ∀ otherwise : Option Expr, Program e fun go => caseOtherwise go otherwise
  | none => .pure _
  | some x => program_expression x

theorem program_caseWhen (operand : Option Expr) (whens thens : List Expr)
    (otherwise : Option Expr) (span : Span) :
    Program e fun go => caseWhen go operand whens thens otherwise span := by
  unfold caseWhen
  split
  · exact .fail _ fun _ => rfl
  · refine .bind (program_caseOperand operand) fun
      | none => .pure none
      | some _ => ?_
    refine .bind (program_branches whens thens) fun
      | none => .pure none
      | some _ => ?_
    exact .bind (program_caseOtherwise otherwise) fun
      | none => .pure none
      | some _ => program_callSome _ _ _ _

/-- Every rule for expressions is a program, whatever the effect around it. -/
theorem program_exprRule (operators : OperatorTable) (rule : ExprRule) (x : Expr) :
    Program e fun go => rule.apply operators go x := by
  unfold ExprRule.apply
  split
  · exact program_map some (.column _)
  · exact .pure _
  · exact .pure _
  · exact program_binary _ _ _ _ _
  · exact program_negation _ _
  · exact program_membership _ _ _ _
  · exact program_between _ _ _ _ _
  · exact program_list _ _
  · exact program_function _ _ _ _
  · exact program_aggregation _
  · exact program_scalarSubquery _
  · exact program_existence _ _ _
  · exact program_caseWhen _ _ _ _ _
  · exact .fail _ fun _ => rfl

/-! ## Select-list items -/

theorem program_columnItem (c : Column) (aliasName : Option String) (span : Span) :
    Program e fun _ => columnItem c aliasName span :=
  .bind (.column c) fun _ => by
    cases aliasName with
    | none => exact .pure _
    | some name => exact .pure _

/-- Every rule for items of a select list is a program that looks at the position of the item at
most. -/
theorem program_projectionRule (settings : CompilerSettings) (rule : ProjectionRule)
    (p : Projection) : Program .naming fun go => rule.apply settings go p := by
  unfold ProjectionRule.apply
  split
  · exact program_map some (program_columnItem _ _ _)
  · exact .bind (program_expression _) fun
      | none => .pure none
      | some _ => .bind (.named _ _ _ _ _) fun _ => .pure _
  · exact .bind (program_aggregation _) fun
      | none => .pure none
      | some _ => .bind (.named _ _ _ _ _) fun _ => .pure _
  · exact .pure _
  · exact .bind (program_scalarSubquery _) fun
      | none => .pure none
      | some _ => .bind (.named _ _ _ _ _) fun _ => .pure _
  · exact .fail _ fun _ => rfl

/-- The items of a select list are converted one by one, each at its position. -/
theorem program_selectItems :
    ∀ (ordinal : Nat) (ps : List Projection),
      Program .inner fun go => selectItems go ordinal ps
  | _, [] => .pure _
  | ordinal, p :: ps => by
    have h : Program .inner fun go => (do
        let plan ← (do
          modifyContext (.setOrdinal ordinal)
          go (.projection p))
        let plans ← selectItems go (ordinal + 1) ps
        return plan.toList ++ plans) :=
      .bind (.item ordinal p) fun _ => .bind (program_selectItems (ordinal + 1) ps) fun _ =>
        .pure _
    simpa only [bind_assoc, selectItems] using h

/-! ## Tables -/

/-- Binding the name of a table is a program in the scope of a FROM clause. -/
theorem program_bindAlias (name : String) :
    Program .binding fun _ => modifyContext (.bindAlias name) :=
  .bindAlias name rfl

/-- A table by its name binds its alias, or else its own name. -/
theorem program_simpleTable (t : SimpleTable) : Program .binding fun _ => simpleTable t :=
  .bind (program_bindAlias _) fun _ => by
    dsimp only
    split
    · exact .pure _
    · exact .pure _

theorem program_joinSide (side : Table) (span : Span) :
    Program .binding fun go => joinSide go side span :=
  .bind (.descend (.table side) rfl) fun
    | none => .fail _ fun _ => rfl
    | some _ => .pure _

theorem program_joinCondition (condition : Option Expr) (sharedColumns : List Column) :
    Program e fun go => joinCondition go condition sharedColumns := by
  unfold joinCondition
  split
  · exact .bind (program_expression _) fun
      | none => .fail _ fun _ => rfl
      | some _ => .pure _
  · split
    · exact .pure _
    · exact .pure _

/-- A join converts its sides and then its condition. -/
theorem program_joinTable (left right : Table) (type : JoinType) (natural : Bool)
    (condition : Option Expr) (sharedColumns : List Column) (span : Span) :
    Program .binding fun go =>
      joinTable go left right type natural condition sharedColumns span := by
  unfold joinTable
  split
  · exact .fail _ fun _ => rfl
  · refine .bind (program_joinSide left span) fun _ => ?_
    refine .bind (program_joinSide right span) fun _ => ?_
    exact .bind (program_joinCondition condition sharedColumns) fun _ => .pure _

/-- The source of a derived table is a SELECT, or only a table if there is nothing else to it. -/
theorem program_derivedSource (select : Select) (span : Span) :
    Program .binding fun go => derivedSource go select span := by
  unfold derivedSource
  split
  · exact program_select _
  · dsimp only
    split
    · refine .bind (.descend _ rfl) fun source => ?_
      cases source with
      | none => exact .bind (.report _ rfl) fun _ => .pure _
      | some _ => exact .pure _
    · refine .bind (.pure none) fun source => ?_
      cases source with
      | none => exact .bind (.report _ rfl) fun _ => .pure _
      | some _ => exact .pure _

theorem program_subqueryTable (query : Subquery) (aliasName : Option String) (span : Span) :
    Program .binding fun go => subqueryTable go query aliasName span :=
  .bind (program_derivedSource _ _) fun
    | none => .pure none
    | some _ => by
      cases aliasName with
      | none => exact .pure _
      | some name => exact .bind (program_bindAlias name) fun _ => .pure _

/-- Every rule for tables is a program that binds names at most. -/
theorem program_tableRule (rule : TableRule) (t : Table) :
    Program .binding fun go => rule.apply go t := by
  unfold TableRule.apply
  split
  · exact program_map some (program_simpleTable _)
  · exact program_map some (program_joinTable _ _ _ _ _ _ _)
  · exact program_subqueryTable _ _ _
  · exact .fail _ fun _ => rfl

/-! ## SELECTs -/

/-- A part that must not be missing is a program if the part is one. -/
theorem program_required {F : Descent → ConvertM (Option α)} (clause : Clause) (span : Span)
    (h : Program e F) : Program e fun go => required clause span (F go) :=
  .bind h fun
    | none => .fail _ fun _ => rfl
    | some _ => .pure _

theorem program_whenPresent {F : α → Descent → ConvertM β} (h : ∀ a, Program e (F a)) :
    ∀ o : Option α, Program e fun go => whenPresent (fun a => F a go) o
  | none => .pure _
  | some a => program_map some (h a)

theorem program_kept {F : α → Descent → ConvertM (Option Plan)} (h : ∀ a, Program e (F a)) :
    ∀ as : List α, Program e fun go => kept (fun a => F a go) as
  | [] => .pure _
  | a :: as => .bind (h a) fun _ => .bind (program_kept h as) fun _ => .pure _

theorem program_itemKey (item : OrderItem) : Program e fun go => itemKey go item := by
  unfold itemKey
  split
  · exact program_map some (.column _)
  · exact program_expression _
  · split
    · exact .pure _
    · exact .fail _ fun _ => rfl

theorem program_directed (direction : Direction) (span : Span) (key : Plan) :
    Program e fun _ => directed direction span key := by
  unfold directed
  split
  · exact program_call _ _ _ _
  · exact .pure _

theorem program_nullsPlaced (nulls : Option NullsOrder) (key : Plan) :
    Program e fun _ => nullsPlaced nulls key := by
  unfold nullsPlaced
  split
  · exact program_call _ _ _ _
  · exact program_call _ _ _ _
  · exact .pure _

/-- The key of an ORDER BY item comes first, then its direction, then the place of nulls. -/
theorem program_orderItem (item : OrderItem) : Program e fun go => orderItem go item :=
  .bind (program_itemKey item) fun
    | none => .pure none
    | some _ => .bind (program_directed _ _ _) fun _ =>
      .bind (program_nullsPlaced _ _) fun _ => .pure _

theorem program_groupKeys (clause : OrderClause) :
    Program e fun go => groupKeys go clause :=
  program_map nonEmpty (program_kept program_itemKey _)

theorem program_orderKeys (clause : OrderClause) :
    Program e fun go => orderKeys go clause :=
  program_map nonEmpty (program_kept program_orderItem _)

theorem program_selectList (l : SelectList) : Program .inner fun go => selectList go l :=
  program_map nonEmpty (program_selectItems 0 _)

theorem program_pageValue (value : PageValue) : Program e fun _ => pageValue value := by
  unfold pageValue
  split
  · split
    · exact .pure _
    · exact .fail _ fun _ => rfl
  · exact .pure _

theorem program_source : ∀ source : Option Table,
    Program .inner fun go => Conversion.source go source
  | none => .pure _
  | some _ => program_required _ _ (.descend _ rfl)

/-- A WHERE or HAVING clause. -/
theorem program_conditionClause (clause : Clause) (c : Option SqlAlgebra.Condition) :
    Program e fun go => whenPresent (fun c => required clause c.span (condition go c)) c :=
  program_whenPresent (fun c => program_required clause c.span (program_expression c.expr)) c

theorem program_groupClause (c : Option OrderClause) :
    Program e fun go => whenPresent (fun c => required .groupBy c.span (groupKeys go c)) c :=
  program_whenPresent (fun c => program_required .groupBy c.span (program_groupKeys c)) c

/-- The clauses of a SELECT change its own scope at most. -/
theorem program_selectParts (s : Select) : Program .inner fun go => selectParts go s := by
  refine .bind (program_source s.source) fun _ => ?_
  refine .bind (program_conditionClause .condition s.condition) fun _ => ?_
  refine .bind (program_groupClause s.groupBy) fun _ => ?_
  refine .bind (program_conditionClause .having s.having) fun _ => ?_
  refine .bind (program_whenPresent
    (fun l => program_map _ (program_required _ _ (program_selectList l))) s.projections)
    fun _ => ?_
  refine .bind (program_whenPresent
    (fun c => program_required _ _ (program_orderKeys c)) s.orderBy) fun _ => ?_
  refine .bind (program_whenPresent program_pageValue _) fun _ => ?_
  refine .bind (program_whenPresent program_pageValue _) fun _ => ?_
  exact .bind (program_whenPresent
    (fun c => program_map _ (program_required _ _ (program_select _))) s.combine)
    fun _ => .pure _

/-- As its clauses have a scope of their own, a SELECT changes nothing around it. -/
theorem program_nestedSelect (s : Select) : Program e fun go => Conversion.select go s :=
  .inScope (program_map _ (program_selectParts s))

/-! ## Modifications -/

theorem program_columns : ∀ cs : List Column, Program e fun _ => columns cs
  | [] => .pure _
  | c :: cs => .bind (.column c) fun _ => .bind (program_columns cs) fun _ => .pure _

theorem program_assignments : ∀ as : List Assignment, Program e fun go => assignments go as
  | [] => .pure _
  | a :: as => by
    unfold assignments
    split
    · refine .bind (.column _) fun _ => ?_
      refine .bind (program_expression _) fun
        | none => .pure none
        | some _ => ?_
      exact .bind (program_assignments as) fun
        | none => .pure none
        | some _ => .pure _
    · exact .fail _ fun _ => rfl

/-- The rows of VALUES are converted in order, each once its length has been checked. -/
theorem program_valuesRows (width : Nat) :
    ∀ rows : List ValuesRow, Program e fun go => valuesRows go width rows
  | [] => .pure _
  | row :: rows => by
    unfold valuesRows
    split
    · refine .bind (program_expressions _ _) fun
        | none => .pure none
        | some _ => ?_
      exact .bind (program_valuesRows width rows) fun
        | none => .pure none
        | some _ => .pure _
    · exact .fail _ fun _ => rfl

theorem program_insertSource (s : Insert) (listed : List Plan) :
    Program e fun go => insertSource go s listed := by
  unfold insertSource
  split
  · split
    · exact .bind (program_assignments _) fun
        | none => .pure none
        | some _ => .pure _
    · exact .fail _ fun _ => rfl
  · exact .bind (program_required _ _ (program_select _)) fun _ => .pure _
  · exact .bind (program_valuesRows _ _) fun
      | none => .pure none
      | some _ => .pure _

/-- An INSERT has a scope of its own. -/
theorem program_insert (s : Insert) : Program e fun go => Conversion.insert go s := by
  unfold Conversion.insert
  split
  · refine .inScope (.bind (.bindAlias _ rfl) fun _ => .bind (program_columns _) fun _ => ?_)
    exact .bind (program_insertSource s _) fun
      | none => .pure none
      | some _ => .pure _
  · exact .fail _ fun _ => rfl

/-- A modification without ORDER BY and LIMIT is converted, and any other refused. -/
theorem program_unordered {F : Descent → ConvertM α} (modification : Modification)
    (orderBy : Option OrderClause) (limit : Option Limit) (span : Span) (h : Program e F) :
    Program e fun go => unordered modification orderBy limit span (F go) := by
  unfold unordered
  split
  · exact .fail _ fun _ => rfl
  · exact h

theorem program_target (table : Table) : Program .inner fun go => target go table :=
  program_required _ _ (.descend _ rfl)

theorem program_targetCondition (c : Option SqlAlgebra.Condition) :
    Program e fun go => targetCondition go c :=
  program_conditionClause .condition c

theorem program_update (s : Update) : Program e fun go => update go s := by
  refine program_unordered _ _ _ _ (.inScope ?_)
  refine .bind (program_target _) fun _ => .bind (program_assignments _) fun
    | none => .pure none
    | some (names, _) => ?_
  dsimp only
  split
  · exact .bind (.fail _ fun _ => rfl) fun _ =>
      .bind (program_targetCondition _) fun _ => .pure _
  · exact .bind (program_targetCondition _) fun _ => .pure _

theorem program_delete (s : Delete) : Program e fun go => Conversion.delete go s :=
  program_unordered _ _ _ _ (.inScope
    (.bind (program_target _) fun _ => .bind (program_targetCondition _) fun _ => .pure _))

/-- Every rule for statements is a program, whatever the effect around it. -/
theorem program_statementRule (rule : StatementRule) (s : Statement) :
    Program e fun go => rule.apply go s := by
  unfold StatementRule.apply
  split
  · exact program_map some (program_nestedSelect _)
  · exact program_insert _
  · exact program_update _
  · exact program_map some (program_delete _)
  · exact .fail _ fun _ => rfl

/-! ## Dispatch -/

/-- Whether a segment is refused. -/
def Registry.Refuses (r : Registry) : Segment → Prop
  | .table t => r.tables.handler t.kind = .unsupported
  | .projection p => r.projections.handler p.kind = .unsupported
  | .expression x => r.expressions.handler x.kind = .unsupported
  | .statement st => r.statements.handler st.kind = .unsupported
  | .select _ => False

/-- A handler refuses a segment, or converts it by a program if its rules do. -/
theorem handled_cases {ρ : Type} {rule : ρ → Descent → ConvertM (Option Plan)} (s : Segment)
    (h : ∀ r, Program s.effect (rule r)) (handler : Handler ρ) :
    (handler = .unsupported ∧ ∀ go, handled handler (fun r => rule r go) go s = refuse s) ∨
      Program s.effect fun go => handled handler (fun r => rule r go) go s := by
  cases handler with
  | rule r => exact .inr (h r)
  | absent => exact .inr (.pure none)
  | redispatch => exact .inr (.descend s (by cases s <;> rfl))
  | unsupported => exact .inl ⟨rfl, fun _ => rfl⟩

/-- Every segment is refused, or converted by a program with the effect of the segment. -/
theorem convertEntered_cases (c : Compiler) (s : Segment) :
    (c.registry.Refuses s ∧ ∀ go, c.convertEntered go s = refuse s) ∨
      Program s.effect fun go => c.convertEntered go s := by
  cases s with
  | table t => exact handled_cases (.table t) (fun r => program_tableRule r t) _
  | projection p =>
    exact handled_cases (.projection p) (fun r => program_projectionRule c.settings r p) _
  | expression x =>
    exact handled_cases (.expression x)
      (fun r => program_exprRule c.registry.operators r x) _
  | statement st =>
    exact handled_cases (.statement st) (fun r => program_statementRule r st) _
  | select q =>
    refine .inr ?_
    unfold Compiler.convertEntered
    dsimp only
    split
    · exact program_map some (program_nestedSelect q)
    · exact .pure none
    · exact .descend (.select q) rfl

end SqlAlgebra
