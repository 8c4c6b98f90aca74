import SqlAlgebra.Proofs.Inversion
import SqlAlgebra.Proofs.Locality

/-!
# Parts that must not be missing

A converter may give nothing instead of a plan, and the registry decides for which kinds. A rule
meets nothing in the place of a part in one of three ways: it gives nothing itself, it fails, or
it drops the part. The last is for the items of a select list, of GROUP BY and of ORDER BY;
every other part is needed (`Segment.needs`). `Demands` says so of a conversion: it has no value
of a certain sort unless the descent has answered with a plan for each of some segments. There
is one lemma for each way of putting conversions together, then one for each rule, and
`Compiler.demands_convertEntered` collects them.
-/

namespace SqlAlgebra

open Conversion ConvertM

/-! ## Needed parts -/

/-- The parts of a SELECT without the items that may be dropped from it. -/
def Select.needs (q : Select) : List Segment :=
  q.source.toList.map .table ++ conditionVisits q.condition ++ conditionVisits q.having ++
    q.combine.toList.map fun c => .select c.query.select

/-- The parts of a segment that it cannot do without: all but the items of a select list, of
GROUP BY and of ORDER BY. -/
def Segment.needs : Segment → List Segment
  | .select q | .statement (.select q) => q.needs
  | x => x.visits

/-! ## Conversions that demand answers -/

variable {α β : Type} {go : Descent} {xs ys : List Segment} {P : α → Prop} {Q : β → Prop}

/-- No value of `m` satisfies `P`. -/
def Never (P : α → Prop) (m : ConvertM α) : Prop :=
  ∀ s a t, m.outcome s = (.ok a, t) → ¬ P a

/-- The descent has converted a segment to a plan, in some state. -/
def Answered (go : Descent) (x : Segment) : Prop :=
  ∃ s p t, (go x).outcome s = (.ok (some p), t)

/-- If a value of `m` satisfies `P`, the descent has answered for each of `xs`. -/
def Demands (go : Descent) (xs : List Segment) (P : α → Prop) (m : ConvertM α) : Prop :=
  ∀ s a t, m.outcome s = (.ok a, t) → P a → ∀ x ∈ xs, Answered go x

theorem never_none : Never (·.isSome) (pure none : ConvertM (Option α)) := by
  intro s a t h
  obtain ⟨rfl, -⟩ := outcome_pure_eq_ok h
  exact Bool.noConfusion

theorem never_throw (e : ConvertError) : Never P (throw e) := by
  intro s a t h
  cases h

/-- What follows a step decides whether the whole can have a value. -/
theorem never_bind {m : ConvertM α} {f : α → ConvertM β} (h : ∀ a, Never Q (f a)) :
    Never Q (m >>= f) := by
  intro s b t hb
  obtain ⟨a, u, -, hb⟩ := outcome_bind_eq_ok hb
  exact h a u b t hb

theorem demands_nil {m : ConvertM α} : Demands go [] P m :=
  fun _ _ _ _ _ _ hx => nomatch hx

/-- What cannot have the value demands any answers. -/
theorem demands_of_never {m : ConvertM α} (h : Never P m) : Demands go xs P m :=
  fun s a t hm ha => absurd ha (h s a t hm)

theorem demands_throw (e : ConvertError) : Demands go xs P (throw e) :=
  demands_of_never (never_throw e)

/-- To hand a segment to the descent and give its plan is to demand it. -/
theorem demands_descend (x : Segment) : Demands go [x] (·.isSome) (go x) := by
  intro s o t h ho y hy
  obtain rfl := List.mem_singleton.1 hy
  obtain ⟨p, rfl⟩ := Option.isSome_iff_exists.1 ho
  exact ⟨s, p, t, h⟩

/-- What the first step and what the second step demand. If the value of the first step is not
of the sort asked for, the second step must not give one that is. -/
theorem demands_bind {m : ConvertM α} {f : α → ConvertM β} (hm : Demands go xs P m)
    (hP : ∀ a, ¬ P a → Never Q (f a)) (hf : ∀ a, P a → Demands go ys Q (f a)) :
    Demands go (xs ++ ys) Q (m >>= f) := by
  intro s b t h hb x hx
  obtain ⟨a, u, ha, h⟩ := outcome_bind_eq_ok h
  by_cases hPa : P a
  · rcases List.mem_append.1 hx with hx | hx
    · exact hm s a u ha hPa x hx
    · exact hf a hPa u b t h hb x hx
  · exact absurd hb (hP a hPa u b t h)

/-- A first step whose value must not be nothing. -/
theorem demands_parts {m : ConvertM (Option α)} {f : Option α → ConvertM β}
    (hm : Demands go xs (·.isSome) m) (hnone : Never Q (f none))
    (hf : ∀ a, Demands go ys Q (f (some a))) : Demands go (xs ++ ys) Q (m >>= f) := by
  refine demands_bind hm (fun o ho => ?_) fun o ho => ?_
  · obtain rfl := Option.not_isSome_iff_eq_none.1 ho
    exact hnone
  · obtain ⟨a, rfl⟩ := Option.isSome_iff_exists.1 ho
    exact hf a

/-- A sequence demands a part if it has no value without it. -/
theorem demands_part {x : Segment} {f : Option Plan → ConvertM β} (hnone : Never Q (f none))
    (hf : ∀ p, Demands go ys Q (f (some p))) : Demands go (x :: ys) Q (go x >>= f) :=
  demands_parts (demands_descend x) hnone hf

/-- A step after which nothing more is demanded. -/
theorem demands_last {m : ConvertM (Option α)} {f : Option α → ConvertM β}
    (hm : Demands go xs (·.isSome) m) (hnone : Never Q (f none)) :
    Demands go xs Q (m >>= f) := by
  have h : Demands go (xs ++ []) Q (m >>= f) := demands_parts hm hnone fun _ => demands_nil
  rwa [List.append_nil] at h

/-- A first step that has a plan for its parts whatever its value. -/
theorem demands_then {m : ConvertM α} {f : α → ConvertM β} (hm : Demands go xs (fun _ => True) m)
    (hf : ∀ a, Demands go ys Q (f a)) : Demands go (xs ++ ys) Q (m >>= f) :=
  demands_bind hm (fun _ h => absurd trivial h) fun a _ => hf a

/-- A first step that demands nothing. -/
theorem demands_step {m : ConvertM α} {f : α → ConvertM β} (hf : ∀ a, Demands go ys Q (f a)) :
    Demands go ys Q (m >>= f) :=
  demands_then demands_nil hf

/-- A last step that has a plan for its parts whatever its value. -/
theorem demands_finally {m : ConvertM α} {f : α → ConvertM β}
    (hm : Demands go xs (fun _ => True) m) : Demands go xs Q (m >>= f) := by
  have h : Demands go (xs ++ []) Q (m >>= f) := demands_then hm fun _ => demands_nil
  rwa [List.append_nil] at h

/-- A function of the value demands what the value demands. -/
theorem demands_map {m : ConvertM α} {f : α → β} (h : Demands go xs (fun _ => True) m) :
    Demands go xs Q (f <$> m) := by
  rw [map_eq_pure_bind]
  exact demands_finally h

theorem demands_inScope {m : ConvertM α} (h : Demands go xs P m) :
    Demands go xs P (inScope m) :=
  fun s a _ ha hP => h s.pushScope a _ (inScope_eq_ok ha) hP

theorem demands_required {clause : Clause} {span : Span} {m : ConvertM (Option α)}
    (h : Demands go xs (·.isSome) m) :
    Demands go xs (fun _ => True) (required clause span m) :=
  fun s a t ha _ => h s (some a) t (required_eq_ok ha) rfl

/-! ## Expressions -/

/-- A list of expressions demands each of them. -/
theorem demands_expressions (owner : SegmentKind) :
    ∀ es : List Expr, Demands go (es.map .expression) (·.isSome) (expressions go owner es)
  | [] => demands_nil
  | _ :: es =>
    demands_part (never_bind fun _ => never_none) fun _ =>
      demands_last (demands_expressions owner es) never_none

/-- A binary operation demands both sides, a test only the one it looks at. -/
theorem demands_binary (operators : OperatorTable) (left : Expr) (operator : String)
    (right : Expr) (span : Span) :
    Demands go (Expr.binary left operator right span).visits (·.isSome)
      (binary operators go left operator right span) := by
  unfold binary
  rw [Expr.visits]
  cases testNegated? operator with
  | some negated =>
    dsimp only
    cases literalTest? negated right with
    | none => exact demands_throw _
    | some op => exact demands_part never_none fun _ => demands_nil
  | none =>
    dsimp only
    cases operators.resolveBinary? (Text.collapsed operator) with
    | none => exact demands_throw _
    | some op =>
      exact demands_part never_none fun _ => demands_part never_none fun _ => demands_nil

/-- IN demands its left side and the rows on its right. -/
theorem demands_membership (left right : Expr) (negated : Bool) (span : Span) :
    Demands go (Expr.membership left right negated span).visits (·.isSome)
      (membership go left right negated span) := by
  cases right <;>
    exact demands_part never_none fun _ => demands_part never_none fun _ => demands_nil

theorem demands_arguments {op : Operator} {arguments : List Expr} {e : ConvertError}
    {f : Option (List Plan) → ConvertM (Option Plan)} (hf : Never (·.isSome) (f none)) :
    Demands go (arguments.map .expression) (·.isSome)
      (if op.arity.accepts arguments.length then expressions go .function arguments >>= f
        else throw e) := by
  split
  · exact demands_last (demands_expressions .function arguments) hf
  · exact demands_throw _

theorem demands_function (operators : OperatorTable) (name : String) (arguments : List Expr)
    (span : Span) :
    Demands go (arguments.map .expression) (·.isSome)
      (function operators go name arguments span) := by
  unfold function
  dsimp only
  split
  · exact demands_step fun _ => demands_arguments never_none
  · exact demands_arguments never_none

theorem demands_aggregation (a : Aggregation) :
    Demands go (a.arguments.map .expression) (·.isSome) (aggregation go a) := by
  refine demands_last ?_ never_none
  unfold aggregateOperands
  dsimp only
  split
  · rename_i hempty
    rw [List.isEmpty_iff.1 hempty]
    exact demands_nil
  · split
    · exact demands_expressions .aggregation a.arguments
    · exact demands_throw _

theorem demands_scalarSubquery (query : Subquery) :
    Demands go [.select query.select] (·.isSome) (scalarSubquery go query) :=
  demands_part never_none fun _ => demands_nil

/-- The branches of a CASE demand all conditions and results. -/
theorem demands_branches :
    ∀ whens thens : List Expr,
      Demands go ((interleaved whens thens).map .expression) (·.isSome) (branches go whens thens)
  | _ :: ws, _ :: ts =>
    demands_part never_none fun _ => demands_part never_none fun _ =>
      demands_last (demands_branches ws ts) never_none
  | [], _ => demands_nil
  | _ :: _, [] => demands_nil

theorem demands_caseOperand (operand : Option Expr) :
    Demands go (operand.toList.map .expression) (·.isSome) (caseOperand go operand) := by
  cases operand with
  | none => exact demands_nil
  | some e => exact demands_part never_none fun _ => demands_nil

theorem demands_caseOtherwise (otherwise : Option Expr) :
    Demands go (otherwise.toList.map .expression) (·.isSome) (caseOtherwise go otherwise) := by
  cases otherwise with
  | none => exact demands_nil
  | some e => exact demands_descend _

theorem demands_caseWhen (operand : Option Expr) (whens thens : List Expr)
    (otherwise : Option Expr) (span : Span) :
    Demands go (Expr.caseWhen operand whens thens otherwise span).visits (·.isSome)
      (caseWhen go operand whens thens otherwise span) := by
  rw [Expr.visits, List.map_append, List.map_append, List.append_assoc]
  unfold caseWhen
  split
  · exact demands_throw _
  · refine demands_parts (demands_caseOperand operand) never_none fun _ => ?_
    refine demands_parts (demands_branches whens thens) never_none fun _ => ?_
    exact demands_last (demands_caseOtherwise otherwise) never_none

/-- Every rule for expressions demands all parts of its expression. -/
theorem demands_exprRule (operators : OperatorTable) (rule : ExprRule) (x : Expr) :
    Demands go x.visits (·.isSome) (rule.apply operators go x) := by
  unfold ExprRule.apply
  split
  · exact demands_nil
  · exact demands_nil
  · exact demands_nil
  · exact demands_binary operators _ _ _ _
  · exact demands_part never_none fun _ => demands_nil
  · exact demands_membership _ _ _ _
  · exact demands_last (demands_expressions .between _) never_none
  · exact demands_last (demands_expressions .list _) never_none
  · exact demands_function operators _ _ _
  · exact demands_aggregation _
  · exact demands_scalarSubquery _
  · exact demands_part never_none fun _ => demands_nil
  · exact demands_caseWhen _ _ _ _ _
  · exact demands_throw _

/-! ## Select-list items and tables -/

/-- Every rule for items demands all parts of its item. -/
theorem demands_projectionRule (settings : CompilerSettings) (rule : ProjectionRule)
    (x : Projection) : Demands go x.visits (·.isSome) (rule.apply settings go x) := by
  unfold ProjectionRule.apply
  split
  · exact demands_nil
  · exact demands_part never_none fun _ => demands_nil
  · exact demands_last (demands_aggregation _) never_none
  · exact demands_nil
  · exact demands_last (demands_scalarSubquery _) never_none
  · exact demands_throw _

theorem demands_joinSide (side : Table) (span : Span) :
    Demands go [.table side] (fun _ => True) (joinSide go side span) :=
  demands_part (never_throw _) fun _ => demands_nil

theorem demands_joinCondition (condition : Option Expr) (columns : List Column) :
    Demands go (condition.toList.map .expression) (fun _ => True)
      (joinCondition go condition columns) := by
  cases condition with
  | none => exact demands_nil
  | some e => exact demands_part (never_throw _) fun _ => demands_nil

theorem demands_joinTable (left right : Table) (type : JoinType) (natural : Bool)
    (condition : Option Expr) (columns : List Column) (span : Span) :
    Demands go (Table.join left right type natural condition columns span).visits
      (fun _ => True) (joinTable go left right type natural condition columns span) := by
  unfold joinTable
  split
  · exact demands_throw _
  · change Demands go ([.table left] ++ ([.table right] ++ condition.toList.map .expression)) _ _
    refine demands_then (demands_joinSide left span) fun _ => ?_
    refine demands_then (demands_joinSide right span) fun _ => ?_
    exact demands_finally (demands_joinCondition condition columns)

/-- A derived table demands its SELECT, or its table if there is nothing else to it. -/
theorem demands_derivedSource (query : Subquery) (aliasName : Option String) (span : Span) :
    Demands go (Table.subquery query aliasName span).visits (·.isSome)
      (derivedSource go query.select span) := by
  unfold derivedSource
  rw [Table.visits]
  cases query.select.projections with
  | some l => exact demands_descend _
  | none =>
    dsimp only
    cases query.select.source with
    | none => exact demands_nil
    | some table => exact demands_part (never_bind fun _ => never_none) fun _ => demands_nil

/-- Every rule for tables demands all parts of its table. -/
theorem demands_tableRule (rule : TableRule) (x : Table) :
    Demands go x.visits (·.isSome) (rule.apply go x) := by
  unfold TableRule.apply
  split
  · exact demands_nil
  · exact demands_map (demands_joinTable _ _ _ _ _ _ _)
  · exact demands_last (demands_derivedSource _ _ _) never_none
  · exact demands_throw _

/-! ## SELECTs -/

theorem demands_source (source : Option Table) :
    Demands go (source.toList.map .table) (fun _ => True) (Conversion.source go source) := by
  cases source with
  | none => exact demands_nil
  | some table => exact demands_required (demands_descend _)

theorem demands_condition (clause : Clause) (c : Option SqlAlgebra.Condition) :
    Demands go (conditionVisits c) (fun _ => True)
      (whenPresent (fun c => required clause c.span (condition go c)) c) := by
  cases c with
  | none => exact demands_nil
  | some c => exact demands_map (demands_required (demands_descend _))

/-- A set operation demands its right side. -/
theorem demands_combine (c : Option Combine) :
    Demands go (c.toList.map fun c => .select c.query.select) (fun _ => True)
      (whenPresent (fun c => (c.type, ·) <$> required .combine c.span (combine go c)) c) := by
  cases c with
  | none => exact demands_nil
  | some c => exact demands_map (demands_map (demands_required (demands_descend _)))

/-- A SELECT demands its source, its conditions and its right side. What is missing from GROUP BY,
from the select list and from ORDER BY is dropped. -/
theorem demands_select (q : Select) :
    Demands go q.needs (fun _ => True) (Conversion.select go q) := by
  refine demands_inScope (demands_map ?_)
  rw [Select.needs, List.append_assoc, List.append_assoc]
  refine demands_then (demands_source q.source) fun _ => ?_
  refine demands_then (demands_condition .condition q.condition) fun _ => ?_
  refine demands_step fun _ => ?_
  refine demands_then (demands_condition .having q.having) fun _ => ?_
  refine demands_step fun _ => demands_step fun _ => ?_
  refine demands_step fun _ => demands_step fun _ => ?_
  exact demands_finally (demands_combine q.combine)

/-! ## Statements -/

theorem demands_assignments :
    ∀ as : List Assignment, Demands go (assignmentVisits as) (·.isSome) (assignments go as)
  | [] => demands_nil
  | a :: as => by
    unfold assignments
    split
    · refine demands_step fun _ => demands_part never_none fun _ => ?_
      exact demands_last (demands_assignments as) never_none
    · exact demands_throw _

theorem demands_valuesRows (width : Nat) :
    ∀ rows : List ValuesRow,
      Demands go (rows.flatMap fun row => row.values.map .expression) (·.isSome)
        (valuesRows go width rows)
  | [] => demands_nil
  | row :: rows => by
    unfold valuesRows
    split
    · refine demands_parts (demands_expressions .insertStatement row.values) never_none fun _ => ?_
      exact demands_last (demands_valuesRows width rows) never_none
    · exact demands_throw _

/-- An INSERT demands all of its one source. -/
theorem demands_insertSource (s : Insert) (listed : List Plan) (hcount : s.sourceCount = 1) :
    Demands go (Statement.insert s).visits (·.isSome) (insertSource go s listed) := by
  unfold insertSource
  cases hset : s.set with
  | some set =>
    obtain ⟨hquery, hrows⟩ := Insert.only_set hcount hset
    have hvisits : (Statement.insert s).visits = assignmentVisits set.assignments := by
      simp [Statement.visits, hset, hquery, hrows]
    rw [hvisits]
    dsimp only
    split
    · exact demands_last (demands_assignments set.assignments) never_none
    · exact demands_throw _
  | none =>
    cases hquery : s.query with
    | some query =>
      have hvisits : (Statement.insert s).visits = [.select query.select] := by
        simp [Statement.visits, hset, hquery, Insert.only_query hcount hquery]
      rw [hvisits]
      exact demands_finally (demands_required (demands_descend _))
    | none =>
      have hvisits : (Statement.insert s).visits =
          s.rows.flatMap fun row => row.values.map .expression := by
        simp [Statement.visits, hset, hquery]
      rw [hvisits]
      exact demands_last (demands_valuesRows s.width s.rows) never_none

theorem demands_insert (s : Insert) :
    Demands go (Statement.insert s).visits (·.isSome) (Conversion.insert go s) := by
  unfold Conversion.insert
  split
  · rename_i hcount
    refine demands_inScope (demands_step fun _ => demands_step fun listed => ?_)
    exact demands_last (demands_insertSource s listed hcount) never_none
  · exact demands_throw _

theorem demands_unordered {m : ConvertM α} (modification : Modification)
    (orderBy : Option OrderClause) (limit : Option Limit) (span : Span) (h : Demands go xs P m) :
    Demands go xs P (unordered modification orderBy limit span m) := by
  unfold unordered
  split
  · exact demands_throw _
  · exact h

theorem demands_target (t : Table) : Demands go [.table t] (fun _ => True) (target go t) :=
  demands_required (demands_descend _)

/-- An UPDATE demands its target, its values and its condition. -/
theorem demands_update (s : Update) :
    Demands go (Statement.update s).visits (·.isSome) (update go s) := by
  refine demands_unordered _ _ _ _ (demands_inScope ?_)
  rw [Statement.visits, List.append_assoc]
  refine demands_then (demands_target s.table) fun _ => ?_
  refine demands_parts (demands_assignments s.set.assignments) never_none fun _ => ?_
  dsimp only
  split
  · exact demands_step fun _ => demands_finally (demands_condition .condition s.condition)
  · exact demands_finally (demands_condition .condition s.condition)

/-- A DELETE demands its target and its condition. -/
theorem demands_delete (s : Delete) :
    Demands go (Statement.delete s).visits (fun _ => True) (Conversion.delete go s) := by
  refine demands_unordered _ _ _ _ (demands_inScope ?_)
  refine demands_then (demands_target s.table) fun _ => ?_
  exact demands_finally (demands_condition .condition s.condition)

/-- Every rule for statements demands the parts that its statement needs. -/
theorem demands_statementRule (rule : StatementRule) (st : Statement) :
    Demands go (Segment.statement st).needs (·.isSome) (rule.apply go st) := by
  unfold StatementRule.apply
  split
  · exact demands_map (demands_select _)
  · exact demands_insert _
  · exact demands_update _
  · exact demands_map (demands_delete _)
  · exact demands_throw _

/-! ## Dispatch -/

/-- A handler that does not hand its segment back demands what its rules demand. -/
theorem demands_handled {ρ : Type} {handler : Handler ρ} {rule : ρ → ConvertM (Option Plan)}
    {x : Segment} (hrule : ∀ r, Demands go xs (·.isSome) (rule r))
    (hx : handler ≠ .redispatch) : Demands go xs (·.isSome) (handled handler rule go x) := by
  cases handler with
  | rule r => exact hrule r
  | absent => exact demands_of_never never_none
  | redispatch => exact absurd rfl hx
  | unsupported => exact demands_of_never (never_bind fun _ => never_bind fun _ => never_throw _)

/-- A plan comes from a rule, unless the segment is handed back. -/
theorem handled_eq_some {ρ : Type} {handler : Handler ρ} {rule : ρ → ConvertM (Option Plan)}
    {x : Segment} {s t : Session} {p : Plan} (hx : handler ≠ .redispatch)
    (h : (handled handler rule go x).outcome s = (.ok (some p), t)) :
    ∃ r, (rule r).outcome s = (.ok (some p), t) := by
  cases handler with
  | rule r => exact ⟨r, h⟩
  | absent => cases h
  | redispatch => exact absurd rfl hx
  | unsupported => cases h

/-- A segment that is not handed back converts to a plan only if all the parts it needs do. -/
theorem Compiler.demands_convertEntered (c : Compiler) {x : Segment}
    (hx : ¬ c.registry.Redispatches x) :
    Demands go x.needs (·.isSome) (c.convertEntered go x) := by
  cases x with
  | table t => exact demands_handled (fun r => demands_tableRule r t) hx
  | projection p => exact demands_handled (fun r => demands_projectionRule c.settings r p) hx
  | expression e =>
    exact demands_handled (fun r => demands_exprRule c.registry.operators r e) hx
  | statement st => exact demands_handled (fun r => demands_statementRule r st) hx
  | select q =>
    unfold convertEntered
    dsimp only
    split
    · exact demands_map (demands_select q)
    · exact demands_of_never never_none
    · rename_i hselect
      exact absurd hselect hx

end SqlAlgebra
