import Mathlib.Logic.Relation
import SqlAlgebra.Proofs.Acceptance
import SqlAlgebra.Proofs.Inversion

/-!
# Where failures come from

Every failure of a conversion is raised by one segment, on account of that segment alone.
`Segment.Raises` is the catalogue: which segment raises what, for the standard rules over any
operator table. `Segment.Reaches` leads from a segment to the segments it visits, so
`x.Blamed operators e` says that `e` is raised by a segment that is visited on the way.

`Yields F m Q` says that from every state `m` gives a value with `Q` or fails with `F`. Each
rule is shown to yield values, except that a hollow table gives nothing, or to fail with what
its segment is to be blamed for; `Compiler.answers_convertWithin` closes the circle by
induction on the levels. What a failure can be is then read off the catalogue. With the
standard operators a fatal failure is the refusal of a segment that has no rule
(`Compiler.tryConvert_eq_error`).
-/

namespace SqlAlgebra

open Conversion ConvertM

/-! ## The catalogue -/

/-- Whether no rule converts the segments of a kind, although there are such segments. -/
def SegmentKind.isRefused (kind : SegmentKind) : Bool :=
  kind == .commonExpression || kind == .deleteMultiTable

namespace Segment

/-- Whether the second segment is visited when the first one is converted. -/
def Reaches : Segment → Segment → Prop :=
  Relation.ReflTransGen fun x p => p ∈ x.visits

/-- The SELECT that a segment stands for. -/
def query? : Segment → Option Select
  | .select q | .statement (.select q) => some q
  | _ => none

/-- The aggregate call that a segment stands for. -/
def aggregation? : Segment → Option Aggregation
  | .expression (.aggregation a) | .projection (.aggregation a _ _) => some a
  | _ => none

/-- The target of an UPDATE or DELETE. -/
def target? : Segment → Option Table
  | .statement (.update s) => some s.table
  | .statement (.delete s) => some s.table
  | _ => none

/-- A clause of a segment is present and has nothing in it; the span is where it stands. -/
inductive Lacks : Segment → Clause → Span → Prop
  | source {x : Segment} {q : Select} {t : Table} (hx : x.query? = some q)
      (ht : q.source = some t) (h : t.hollow) : Lacks x .source t.span
  | selectList {x : Segment} {q : Select} {l : SelectList} (hx : x.query? = some q)
      (hl : q.projections = some l) (h : l.items = []) : Lacks x .selectList l.span
  | groupBy {x : Segment} {q : Select} {c : OrderClause} (hx : x.query? = some q)
      (hc : q.groupBy = some c) (h : c.items = []) : Lacks x .groupBy c.span
  | orderBy {x : Segment} {q : Select} {c : OrderClause} (hx : x.query? = some q)
      (hc : q.orderBy = some c) (h : c.items = []) : Lacks x .orderBy c.span
  | target {x : Segment} {t : Table} (hx : x.target? = some t) (h : t.hollow) :
    Lacks x .target t.span
  | assignments {s : Update} (h : s.set.assignments = []) :
    Lacks (.statement (.update s)) .assignments s.set.span

/-- A segment raises a failure on its own account. -/
inductive Raises (operators : OperatorTable) : Segment → ConvertError → Prop
  | level (x : Segment) (limit : UInt64) : Raises operators x (.maxRecursion limit)
  | refusal {x : Segment} (h : x.kind.isRefused) (path : List SegmentKind) :
    Raises operators x (.unsupportedSegment x.kind x.span path)
  | clause {x : Segment} {clause : Clause} {span : Span} (h : x.Lacks clause span) :
    Raises operators x (.emptyClause clause span)
  | operator (left right : Expr) (text : String) (span : Span) :
    Raises operators (.expression (.binary left text right span))
      (.unsupportedOperator text left.kind right.kind span)
  /-- The operator table may hold an operator that does not take two operands. -/
  | operands {left right : Expr} {text : String} {span : Span} {op : Operator}
      (hop : operators.resolveBinary? text = some op) (ha : ¬op.arity.accepts 2) :
    Raises operators (.expression (.binary left text right span)) (.invalidArity ⟨op, 2⟩)
  | arguments {name : String} {arguments : List Expr} {span : Span}
      (ha : ¬(operators.resolveFunction name).arity.accepts arguments.length) :
    Raises operators (.expression (.function name arguments span))
      (.malformedSegment .function
        (.argumentCount (operators.resolveFunction name) arguments.length) span)
  | aggregate {x : Segment} {a : Aggregation} (hx : x.aggregation? = some a) (defect : Defect) :
    Raises operators x (.malformedSegment .aggregation defect a.span)
  | branches (operand otherwise : Option Expr) (whens thens : List Expr) (span : Span) :
    Raises operators (.expression (.caseWhen operand whens thens otherwise span))
      (.malformedSegment .caseWhen (.branchCount whens.length thens.length) span)
  | join (left right : Table) (type : JoinType) (natural : Bool) (condition : Option Expr)
      (columns : List Column) (span : Span) (defect : Defect) :
    Raises operators (.table (.join left right type natural condition columns span))
      (.malformedSegment .joinTable defect span)
  | ordinal {x : Segment} {q : Select} (hx : x.query? = some q) (index : UInt64) (span : Span) :
    Raises operators x (.malformedSegment .orderByItem (.ordinalRange index) span)
  | page {x : Segment} {q : Select} (hx : x.query? = some q) (value : UInt64) (span : Span) :
    Raises operators x (.malformedSegment .limit (.pageRange value) span)
  | insert (s : Insert) (defect : Defect) (span : Span) :
    Raises operators (.statement (.insert s)) (.malformedSegment .insertStatement defect span)
  | feature (st : Statement) (feature : Feature) (span : Span) :
    Raises operators (.statement st) (.unsupportedFeature feature span)

/-- A failure is raised by a segment that is visited. -/
def Blamed (operators : OperatorTable) (x : Segment) (e : ConvertError) : Prop :=
  ∃ y, x.Reaches y ∧ y.Raises operators e

/-- A segment is to be blamed for what it raises itself. -/
theorem Raises.blamed {operators : OperatorTable} {x : Segment} {e : ConvertError}
    (h : x.Raises operators e) : x.Blamed operators e :=
  ⟨x, .refl, h⟩

/-- A segment is to be blamed for what is raised below it. -/
theorem Blamed.of_mem_visits {operators : OperatorTable} {x p : Segment} {e : ConvertError}
    (h : p.Blamed operators e) (hp : p ∈ x.visits) : x.Blamed operators e := by
  obtain ⟨y, hy, he⟩ := h
  exact ⟨y, .head hp hy, he⟩

/-- A segment that stands for a SELECT visits what the SELECT visits. -/
theorem visits_of_query? {x : Segment} {q : Select} (h : x.query? = some q) :
    x.visits = q.visits := by
  unfold query? at h
  split at h
  · obtain rfl := Option.some.inj h
    rfl
  · obtain rfl := Option.some.inj h
    rfl
  · cases h

end Segment

/-! ## Yielding a value or a failure -/

variable {α β : Type}

/-- A value with `Q`, or a failure with `F`. -/
def Result (F : ConvertError → Prop) (Q : α → Prop) : Except ConvertError α → Prop
  | .ok a => Q a
  | .error e => F e

/-- Whatever the state, `m` gives a value with `Q` or fails with `F`. -/
structure Yields (F : ConvertError → Prop) (m : ConvertM α) (Q : α → Prop) : Prop where
  ends : Ends m (Result F Q)

section Rules

variable {F : ConvertError → Prop} {m : ConvertM α} {Q : α → Prop}

theorem yields_of_result {a : α} (hm : ∀ s, (m.outcome s).1 = .ok a) (ha : Q a) :
    Yields F m Q := by
  refine ⟨fun s => ?_⟩
  rw [hm s]
  exact ha

theorem yields_pure {a : α} (ha : Q a) : Yields F (pure a) Q :=
  yields_of_result (fun _ => rfl) ha

theorem yields_throw {e : ConvertError} (he : F e) : Yields F (throw e : ConvertM α) Q :=
  ⟨fun _ => he⟩

/-- What is known of the failures may be weakened. -/
theorem Yields.weaken {G : ConvertError → Prop} (h : Yields F m Q) (hFG : ∀ e, F e → G e) :
    Yields G m Q :=
  ⟨h.ends.mono fun
    | .ok _, ha => ha
    | .error e, he => hFG e he⟩

/-- A sequence fails with what one of its steps fails with. -/
theorem yields_bind {f : α → ConvertM β} {R : β → Prop} (hm : Yields F m Q)
    (hf : ∀ a, Q a → Yields F (f a) R) : Yields F (m >>= f) R :=
  ⟨hm.ends.bind (fun a ha => (hf a ha).ends) fun _ he => he⟩

theorem yields_map {f : α → β} {R : β → Prop} (hm : Yields F m Q) (hf : ∀ a, Q a → R (f a)) :
    Yields F (f <$> m) R := by
  rw [map_eq_pure_bind]
  exact yields_bind hm fun a ha => yields_pure (hf a ha)

/-- A step that does no more than change the state. -/
theorem yields_step {m : ConvertM Unit} {f : Unit → ConvertM β} {R : β → Prop}
    (hm : ∀ s, (m.outcome s).1 = .ok ()) (hf : Yields F (f ()) R) : Yields F (m >>= f) R :=
  yields_bind (yields_of_result (Q := fun _ => True) hm trivial) fun _ _ => hf

/-- A part that does not convert to nothing, and what follows it. -/
theorem yields_part {m : ConvertM (Option α)} {f : Option α → ConvertM β} {R : β → Prop}
    (hm : Yields F m fun o => o.isSome) (hf : ∀ a, Yields F (f (some a)) R) :
    Yields F (m >>= f) R := by
  refine yields_bind hm fun o ho => ?_
  obtain ⟨a, rfl⟩ := Option.isSome_iff_exists.1 ho
  exact hf a

theorem yields_inScope (hm : Yields F m Q) : Yields F (inScope m) Q :=
  ⟨hm.ends.inScope⟩

theorem yields_column (c : Column) : Yields F (column c) fun _ => True :=
  yields_of_result (result_column c) trivial

/-- A call does not fail if its operator accepts the number of operands. -/
theorem yields_call {op : Operator} (operands : List Plan) {distinct : Bool} {span : Span}
    (ha : op.arity.accepts operands.length) :
    Yields F (do return some (← call op operands distinct span)) fun o => o.isSome := by
  refine yields_of_result (a := some (.call op operands distinct span)) (fun s => ?_) rfl
  unfold call Plan.apply
  rw [if_pos ha]
  rfl

end Rules

/-- The descent gives nothing for a hollow table only, and each segment is to blame for its
own failures. -/
def Answers (operators : OperatorTable) (go : Descent) : Prop :=
  ∀ x, Yields (x.Blamed operators) (go x) fun o => o.isSome = !x.hollow

variable {operators : OperatorTable} {go : Descent} {F : ConvertError → Prop}

/-- A failure of a part of `x` is a failure that `x` is blamed for. -/
theorem yields_visited (hgo : Answers operators go) {x p : Segment} (hp : p ∈ x.visits) :
    Yields (x.Blamed operators) (go p) fun o => o.isSome = !p.hollow :=
  (hgo p).weaken fun _ he => he.of_mem_visits hp

/-- The failures of an expression that a segment visits are to be blamed on the segment. -/
theorem yields_expr (hgo : Answers operators go) {x : Segment} {e : Expr}
    (he : .expression e ∈ x.visits) :
    Yields (x.Blamed operators) (go (.expression e)) fun o => o.isSome :=
  yields_visited hgo he

theorem yields_nested (hgo : Answers operators go) {x : Segment} {q : Select}
    (hq : .select q ∈ x.visits) :
    Yields (x.Blamed operators) (go (.select q)) fun o => o.isSome :=
  yields_visited hgo hq

/-! ## Expressions -/

theorem yields_expressions (hgo : Answers operators go) (owner : SegmentKind) {x : Segment} :
    ∀ es : List Expr, (∀ e ∈ es, .expression e ∈ x.visits) →
      Yields (x.Blamed operators) (expressions go owner es)
        fun o => ∃ ps, o = some ps ∧ ps.length = es.length
  | [], _ => yields_pure ⟨[], rfl, rfl⟩
  | e :: es, hes => by
    obtain ⟨he, hes⟩ := List.forall_mem_cons.1 hes
    refine yields_part (yields_expr hgo he) fun p => ?_
    refine yields_bind (yields_expressions hgo owner es hes) ?_
    rintro _ ⟨ps, rfl, hlength⟩
    exact yields_pure ⟨p :: ps, rfl, congrArg Nat.succ hlength⟩

/-- A call on the values of some expressions. -/
theorem yields_apply (hgo : Answers operators go) {owner : SegmentKind} {x : Segment}
    {es : List Expr} {op : Operator} {distinct : Bool} {span : Span}
    {f : Option (List Plan) → ConvertM (Option Plan)}
    (hes : ∀ e ∈ es, .expression e ∈ x.visits)
    (hf : ∀ ps, f (some ps) = do return some (← call op ps distinct span))
    (ha : op.arity.accepts es.length) :
    Yields (x.Blamed operators) (expressions go owner es >>= f) fun o => o.isSome := by
  refine yields_bind (yields_expressions hgo owner es hes) ?_
  rintro _ ⟨ps, rfl, hlength⟩
  rw [hf]
  exact yields_call ps (by rwa [hlength])

/-- A binary operation raises two failures of its own: for a text that stands for nothing, and for
an operator that does not take two operands. -/
theorem yields_binary (hgo : Answers operators go) (left : Expr) (text : String)
    (right : Expr) (span : Span) :
    Yields ((Segment.expression (.binary left text right span)).Blamed operators)
      (binary operators go left text right span) fun o => o.isSome := by
  rw [binary, operators.resolveBinary?_collapsed]
  cases htest : testNegated? text with
  | some negated =>
    dsimp only
    cases hright : literalTest? negated right with
    | none => exact yields_throw (Segment.Raises.operator ..).blamed
    | some op =>
      have hleft : .expression left ∈ (Expr.binary left text right span).visits := by
        simp [Expr.visits, htest]
      exact yields_part (yields_expr hgo hleft) fun p =>
        yields_call [p] (accepts_of_literalTest? hright)
  | none =>
    dsimp only
    cases hop : operators.resolveBinary? text with
    | none => exact yields_throw (Segment.Raises.operator ..).blamed
    | some op =>
      have hvisits : (Expr.binary left text right span).visits =
          [.expression left, .expression right] := by
        simp [Expr.visits, htest]
      refine yields_part (yields_expr hgo (by simp [Segment.visits, hvisits])) fun p =>
        yields_part (yields_expr hgo (by simp [Segment.visits, hvisits])) fun q => ?_
      by_cases ha : op.arity.accepts 2
      · exact yields_call [p, q] ha
      · refine yields_bind (Q := fun _ => True) ?_ fun _ _ => yields_pure rfl
        have hcall : call op [p, q] false span = throw (.invalidArity ⟨op, 2⟩) := by
          simp [call, Plan.apply, ha]
        rw [hcall]
        exact yields_throw (Segment.Raises.operands hop ha).blamed

theorem yields_negation (hgo : Answers operators go) (operand : Expr) (span : Span) :
    Yields ((Segment.expression (.negation operand span)).Blamed operators)
      (negation go operand span) fun o => o.isSome :=
  yields_part (yields_expr hgo (by simp [Segment.visits, Expr.visits])) fun p =>
    yields_call [p] rfl

theorem yields_membership (hgo : Answers operators go) (left right : Expr) (negated : Bool)
    (span : Span) :
    Yields ((Segment.expression (.membership left right negated span)).Blamed operators)
      (membership go left right negated span) fun o => o.isSome := by
  have ha : ∀ p q : Plan,
      (Operator.core (membershipOperator negated)).arity.accepts [p, q].length := by
    cases negated <;> exact fun _ _ => rfl
  cases right with
  | subquery query =>
    exact yields_part (yields_expr hgo (by simp [Segment.visits, Expr.visits])) fun p =>
      yields_part (yields_nested hgo (by simp [Segment.visits, Expr.visits])) fun q =>
        yields_call [p, q] (ha p q)
  | _ =>
    exact yields_part (yields_expr hgo (by simp [Segment.visits, Expr.visits])) fun p =>
      yields_part (yields_expr hgo (by simp [Segment.visits, Expr.visits])) fun q =>
        yields_call [p, q] (ha p q)

theorem yields_between (hgo : Answers operators go) (operand low high : Expr) (negated : Bool)
    (span : Span) :
    Yields ((Segment.expression (.between operand low high negated span)).Blamed operators)
      (between go operand low high negated span) fun o => o.isSome :=
  yields_apply hgo (by simp [Segment.visits, Expr.visits]) (fun _ => rfl)
    (by cases negated <;> rfl)

theorem yields_list (hgo : Answers operators go) (items : List Expr) (span : Span) :
    Yields ((Segment.expression (.list items span)).Blamed operators) (list go items span)
      fun o => o.isSome := by
  refine yields_bind (yields_expressions hgo .list items ?_) ?_
  · simp [Segment.visits, Expr.visits]
  · rintro _ ⟨ps, rfl, -⟩
    exact yields_pure rfl

/-- The arguments of a function are converted if there are as many as the function takes. -/
theorem yields_arguments (hgo : Answers operators go) {name : String} {arguments : List Expr}
    {span : Span} {f : Option (List Plan) → ConvertM (Option Plan)}
    (hf : ∀ ps, f (some ps) = do
      return some (← call (operators.resolveFunction name) ps false span)) :
    Yields ((Segment.expression (.function name arguments span)).Blamed operators)
      (if (operators.resolveFunction name).arity.accepts arguments.length then
        expressions go .function arguments >>= f
      else throw (.malformedSegment .function
        (.argumentCount (operators.resolveFunction name) arguments.length) span))
      fun o => o.isSome := by
  split
  · rename_i ha
    refine yields_apply hgo (fun e he => ?_) hf ha
    simp [Segment.visits, Expr.visits, he]
  · rename_i ha
    exact yields_throw (Segment.Raises.arguments ha).blamed

/-- A function call fails by itself only for the number of its arguments. -/
theorem yields_function (hgo : Answers operators go) (name : String) (arguments : List Expr)
    (span : Span) :
    Yields ((Segment.expression (.function name arguments span)).Blamed operators)
      (function operators go name arguments span) fun o => o.isSome := by
  unfold function
  dsimp only
  split
  · exact yields_step (fun _ => rfl) (yields_arguments hgo fun _ => rfl)
  · exact yields_arguments hgo fun _ => rfl

/-- An aggregate call, as an expression or as an item of a select list. -/
theorem yields_aggregation (hgo : Answers operators go) {x : Segment} {a : Aggregation}
    (hx : x.aggregation? = some a) (hvisits : x.visits = a.arguments.map .expression) :
    Yields (x.Blamed operators) (aggregation go a) fun o => o.isSome := by
  obtain ⟨function, distinct, arguments, span⟩ := a
  unfold aggregation aggregateOperands
  cases arguments with
  | nil =>
    cases function with
    | count => exact yields_of_result (fun _ => rfl) rfl
    | _ => exact yields_throw (Segment.Raises.aggregate hx _).blamed
  | cons e es =>
    simp only [List.isEmpty_cons, Bool.false_eq_true, if_false]
    split
    · rename_i ha
      have hop : (Operator.core (aggregateOperator function)).arity.accepts (e :: es).length := ha
      exact yields_apply hgo (by simp [hvisits]) (fun _ => rfl) hop
    · exact yields_throw (Segment.Raises.aggregate hx _).blamed

theorem yields_scalarSubquery (hgo : Answers operators go) {x : Segment} {query : Subquery}
    (hq : .select query.select ∈ x.visits) :
    Yields (x.Blamed operators) (scalarSubquery go query) fun o => o.isSome :=
  yields_part (yields_nested hgo hq) fun p => yields_call [p] rfl

theorem yields_existence (hgo : Answers operators go) (query : Subquery) (negated : Bool)
    (span : Span) :
    Yields ((Segment.expression (.existence query negated span)).Blamed operators)
      (existence go query negated span) fun o => o.isSome := by
  refine yields_part (yields_nested hgo (by simp [Segment.visits, Expr.visits])) fun p => ?_
  cases negated <;> exact yields_of_result (fun _ => rfl) rfl

theorem yields_branches (hgo : Answers operators go) {x : Segment} :
    ∀ whens thens : List Expr, (∀ e ∈ interleaved whens thens, .expression e ∈ x.visits) →
      Yields (x.Blamed operators) (branches go whens thens)
        fun o => ∃ ps, o = some ps ∧ ps.length = (interleaved whens thens).length
  | [], _, _ => yields_pure ⟨[], rfl, rfl⟩
  | _ :: _, [], _ => yields_pure ⟨[], rfl, rfl⟩
  | w :: ws, t :: ts, hes => by
    obtain ⟨hw, hes⟩ := List.forall_mem_cons.1 hes
    obtain ⟨ht, hes⟩ := List.forall_mem_cons.1 hes
    refine yields_part (yields_expr hgo hw) fun p => yields_part (yields_expr hgo ht) fun q => ?_
    refine yields_bind (yields_branches hgo ws ts hes) ?_
    rintro _ ⟨ps, rfl, hlength⟩
    exact yields_pure ⟨p :: q :: ps, rfl, congrArg (· + 2) hlength⟩

theorem yields_caseOperand (hgo : Answers operators go) {x : Segment} :
    ∀ operand : Option Expr, (∀ e ∈ operand, .expression e ∈ x.visits) →
      Yields (x.Blamed operators) (caseOperand go operand)
        fun o => ∃ ps, o = some ps ∧ ps.length = operand.toList.length
  | none, _ => yields_pure ⟨[], rfl, rfl⟩
  | some e, he => yields_part (yields_expr hgo (he e rfl)) fun p => yields_pure ⟨[p], rfl, rfl⟩

theorem yields_caseOtherwise (hgo : Answers operators go) {x : Segment} :
    ∀ otherwise : Option Expr, (∀ e ∈ otherwise, .expression e ∈ x.visits) →
      Yields (x.Blamed operators) (caseOtherwise go otherwise) fun o => o.isSome
  | none, _ => yields_pure rfl
  | some e, he => yields_expr hgo (he e rfl)

/-- A CASE fails by itself only if it has not as many results as conditions. -/
theorem yields_caseWhen (hgo : Answers operators go) (operand : Option Expr)
    (whens thens : List Expr) (otherwise : Option Expr) (span : Span) :
    Yields ((Segment.expression (.caseWhen operand whens thens otherwise span)).Blamed operators)
      (caseWhen go operand whens thens otherwise span) fun o => o.isSome := by
  unfold caseWhen
  split
  · exact yields_throw (Segment.Raises.branches ..).blamed
  · rename_i hcount
    simp only [Bool.or_eq_true, List.isEmpty_iff, bne_iff_ne, not_or, not_not] at hcount
    refine yields_bind (yields_caseOperand hgo operand ?_) ?_
    · simp +contextual [Segment.visits, Expr.visits]
    rintro _ ⟨lead, rfl, hlead⟩
    refine yields_bind (yields_branches hgo whens thens ?_) ?_
    · simp +contextual [Segment.visits, Expr.visits]
    rintro _ ⟨middle, rfl, hmiddle⟩
    refine yields_part (yields_caseOtherwise hgo otherwise ?_) fun last => ?_
    · simp +contextual [Segment.visits, Expr.visits]
    exact yields_call _ (accepts_caseOperator hcount.1 hcount.2 hlead hmiddle last)

/-- A segment of a kind that has no rule is to be blamed for its refusal. -/
theorem yields_refuse {x : Segment} (hx : x.kind.isRefused) {Q : Option Plan → Prop} :
    Yields (x.Blamed operators) (refuse x) Q :=
  ⟨fun _ => (Segment.Raises.refusal hx _).blamed⟩

section Dispatch

variable (operators) (settings : CompilerSettings)

theorem convertEntered_exprRule {e : Expr} {rule : ExprRule}
    (h : Registry.standard.expressions.handler e.kind = .rule rule) :
    (Compiler.standard settings operators).convertEntered go (.expression e) =
      rule.apply operators go e := by
  change handled (Registry.standard.expressions.handler e.kind) _ _ _ = _
  rw [h]
  rfl

variable {operators}

/-- An expression that has been entered fails with what is to be blamed on it. -/
theorem yields_expression (hgo : Answers operators go) (e : Expr) :
    Yields ((Segment.expression e).Blamed operators)
      ((Compiler.standard settings operators).convertEntered go (.expression e))
      fun o => o.isSome := by
  cases e with
  | column c => exact yields_map (yields_column c) fun _ _ => rfl
  | literal value span => exact yields_pure rfl
  | parameter index span => exact yields_pure rfl
  | binary left text right span =>
    rw [convertEntered_exprRule operators settings (e := .binary left text right span) rfl]
    exact yields_binary hgo left text right span
  | negation operand span => exact yields_negation hgo operand span
  | membership left right negated span => exact yields_membership hgo left right negated span
  | between operand low high negated span =>
    exact yields_between hgo operand low high negated span
  | list items span => exact yields_list hgo items span
  | function name arguments span =>
    rw [convertEntered_exprRule operators settings (e := .function name arguments span) rfl]
    exact yields_function hgo name arguments span
  | aggregation a => exact yields_aggregation hgo rfl rfl
  | subquery query =>
    exact yields_scalarSubquery hgo (by simp [Segment.visits, Expr.visits])
  | existence query negated span => exact yields_existence hgo query negated span
  | caseWhen operand whens thens otherwise span =>
    exact yields_caseWhen hgo operand whens thens otherwise span
  | common text span => exact yields_refuse rfl

/-! ## Select-list items -/

theorem yields_named {settings : CompilerSettings} {kind : SegmentKind}
    {aliasName : Option String} {span : Span} {m : ConvertM (Option Plan)}
    {f : Option Plan → ConvertM (Option Plan)}
    (hf : ∀ p, f (some p) = do return some (← named settings kind aliasName span p))
    (hm : Yields F m fun o => o.isSome) : Yields F (m >>= f) fun o => o.isSome := by
  refine yields_part hm fun p => ?_
  rw [hf]
  refine yields_bind (Q := fun _ => True) ⟨fun s => ?_⟩ fun _ _ => yields_pure rfl
  rw [result_named]
  trivial

/-- An item that has been entered fails with what is to be blamed on it. -/
theorem yields_projection (hgo : Answers operators go) (p : Projection) :
    Yields ((Segment.projection p).Blamed operators)
      ((Compiler.standard settings operators).convertEntered go (.projection p))
      fun o => o.isSome := by
  cases p with
  | column c aliasName span =>
    refine yields_map (Q := fun _ => True) (yields_bind (yields_column c) fun _ _ => ?_)
      fun _ _ => rfl
    cases aliasName <;> exact yields_pure trivial
  | expression e aliasName span =>
    exact yields_named (fun _ => rfl)
      (yields_expr hgo (by simp [Segment.visits, Projection.visits]))
  | aggregation a aliasName span =>
    exact yields_named (fun _ => rfl) (yields_aggregation hgo rfl rfl)
  | shorthand owner span => exact yields_pure rfl
  | subquery query aliasName span =>
    exact yields_named (fun _ => rfl)
      (yields_scalarSubquery hgo (by simp [Segment.visits, Projection.visits]))

/-! ## Tables -/

theorem yields_simpleTable (t : SimpleTable) : Yields F (simpleTable t) fun _ => True := by
  refine yields_step (fun _ => rfl) ?_
  dsimp only
  split
  · exact yields_pure trivial
  · exact yields_pure trivial

/-- A table that must not be hollow. -/
theorem yields_filled (hgo : Answers operators go) {x : Segment} {t : Table}
    (ht : .table t ∈ x.visits) {f : Option Plan → ConvertM Plan} {e : ConvertError}
    (hnone : f none = throw e) (hsome : ∀ p, f (some p) = pure p)
    (he : t.hollow → x.Blamed operators e) :
    Yields (x.Blamed operators) (go (.table t) >>= f) fun _ => True := by
  refine yields_bind (yields_visited hgo ht) fun o ho => ?_
  cases o with
  | none =>
    have hhollow : t.hollow = true := by simpa [Segment.hollow] using ho
    rw [hnone]
    exact yields_throw (he hhollow)
  | some p =>
    rw [hsome]
    exact yields_pure trivial

theorem yields_joinCondition (hgo : Answers operators go) {x : Segment} {columns : List Column} :
    ∀ condition : Option Expr, (∀ e ∈ condition, .expression e ∈ x.visits) →
      Yields (x.Blamed operators) (joinCondition go condition columns) fun _ => True
  | some e, he => yields_part (yields_expr hgo (he e rfl)) fun _ => yields_pure trivial
  | none, _ => by
    unfold joinCondition
    dsimp only
    split
    · exact yields_pure trivial
    · exact yields_pure trivial

/-- A join fails by itself for a defect, one that it has or a side that converts to nothing. -/
theorem yields_joinTable (hgo : Answers operators go) (left right : Table) (type : JoinType)
    (natural : Bool) (condition : Option Expr) (columns : List Column) (span : Span) :
    Yields ((Segment.table (.join left right type natural condition columns span)).Blamed
        operators)
      (joinTable go left right type natural condition columns span) fun _ => True := by
  have hjoin : ∀ defect, (Segment.table (.join left right type natural condition columns
      span)).Blamed operators (.malformedSegment .joinTable defect span) :=
    fun defect => (Segment.Raises.join _ _ _ _ _ _ _ defect).blamed
  unfold joinTable
  split
  · exact yields_throw (hjoin _)
  · refine yields_bind (yields_filled hgo (t := left) ?_ rfl (fun _ => rfl) fun _ => hjoin _)
      fun _ _ => ?_
    · simp [Segment.visits, Table.visits]
    refine yields_bind (yields_filled hgo (t := right) ?_ rfl (fun _ => rfl) fun _ => hjoin _)
      fun _ _ => ?_
    · simp [Segment.visits, Table.visits]
    refine yields_bind (yields_joinCondition hgo condition ?_) fun _ _ => yields_pure trivial
    simp +contextual [Segment.visits, Table.visits]

/-- A derived table has a source exactly if it is not hollow. -/
theorem yields_derivedSource (hgo : Answers operators go) (query : Subquery)
    (aliasName : Option String) (span : Span) :
    Yields ((Segment.table (.subquery query aliasName span)).Blamed operators)
      (derivedSource go query.select span)
      fun o => o.isSome = !(Table.subquery query aliasName span).hollow := by
  obtain ⟨⟨projections, source, condition, groupBy, having, orderBy, page, combine, s⟩, t⟩ :=
    query
  cases projections with
  | some l => exact yields_visited hgo (by simp [Segment.visits, Table.visits])
  | none =>
    cases source with
    | none => exact yields_of_result (fun _ => rfl) rfl
    | some table =>
      refine yields_bind (yields_visited hgo (p := .table table)
        (by simp [Segment.visits, Table.visits])) fun o ho => ?_
      cases o with
      | none => exact yields_of_result (fun _ => rfl) ho
      | some p => exact yields_pure ho

theorem yields_subqueryTable (hgo : Answers operators go) (query : Subquery)
    (aliasName : Option String) (span : Span) :
    Yields ((Segment.table (.subquery query aliasName span)).Blamed operators)
      (subqueryTable go query aliasName span)
      fun o => o.isSome = !(Table.subquery query aliasName span).hollow := by
  refine yields_bind (yields_derivedSource hgo query aliasName span) fun o ho => ?_
  cases o with
  | none => exact yields_pure ho
  | some source => cases aliasName <;> exact yields_of_result (fun _ => rfl) ho

/-- A table that has been entered fails with what is to be blamed on it, and has a plan exactly if
it is not hollow. -/
theorem yields_table (hgo : Answers operators go) (t : Table) :
    Yields ((Segment.table t).Blamed operators)
      ((Compiler.standard settings operators).convertEntered go (.table t))
      fun o => o.isSome = !t.hollow := by
  cases t with
  | simple t => exact yields_map (yields_simpleTable t) fun _ _ => rfl
  | join left right type natural condition columns span =>
    exact yields_map (yields_joinTable hgo left right type natural condition columns span)
      fun _ _ => rfl
  | subquery query aliasName span => exact yields_subqueryTable hgo query aliasName span
  | deleteMulti targets relation span => exact yields_refuse rfl

end Dispatch

/-! ## Clauses -/

section Clauses

variable {f : α → ConvertM (Option Plan)}

theorem yields_whenPresent {f : α → ConvertM β} {o : Option α}
    (hf : ∀ a ∈ o, Yields F (f a) fun _ => True) : Yields F (whenPresent f o) fun _ => True := by
  cases o with
  | none => exact yields_pure trivial
  | some a => exact yields_map (hf a rfl) fun _ _ => trivial

theorem yields_required {clause : Clause} {span : Span} {m : ConvertM (Option α)}
    (hm : Yields F m fun o => o.isSome) : Yields F (required clause span m) fun _ => True :=
  yields_part hm fun _ => yields_pure trivial

/-- Where every part has a plan, none is dropped. -/
theorem yields_kept : ∀ as : List α, (∀ a ∈ as, Yields F (f a) fun o => o.isSome) →
    Yields F (kept f as) fun ps => ps.length = as.length
  | [], _ => yields_pure rfl
  | a :: as, hf => by
    obtain ⟨ha, hf⟩ := List.forall_mem_cons.1 hf
    refine yields_part ha fun p => ?_
    refine yields_bind (yields_kept as hf) fun ps hps => ?_
    exact yields_pure (congrArg Nat.succ hps)

/-- Plans that must not be missing altogether, one for each of some things. -/
theorem yields_keys {clause : Clause} {span : Span} {as : List α} {m : ConvertM (List Plan)}
    (hm : Yields F m fun ps => ps.length = as.length)
    (hempty : as = [] → F (.emptyClause clause span)) :
    Yields F (required clause span (nonEmpty <$> m)) fun _ => True := by
  have hkeys : Yields F (nonEmpty <$> m) fun o => (o.isSome ↔ as ≠ []) :=
    yields_map hm fun _ => isSome_nonEmpty_iff
  refine yields_bind hkeys fun o ho => ?_
  cases o with
  | none =>
    have hnil : as = [] := by simpa using ho
    exact yields_throw (hempty hnil)
  | some ps => exact yields_pure trivial

end Clauses

section Selects

variable {x : Segment} {q : Select}

/-- The key of an item fails by itself only for a position that is out of range. -/
theorem yields_itemKey (hgo : Answers operators go) (hx : x.query? = some q) (item : OrderItem)
    (hitem : ∀ p ∈ item.visits, p ∈ x.visits) :
    Yields (x.Blamed operators) (itemKey go item) fun o => o.isSome := by
  cases item with
  | column c direction nulls span => exact yields_map (yields_column c) fun _ _ => rfl
  | expression e direction nulls span =>
    exact yields_expr hgo (hitem _ (List.mem_singleton.2 rfl))
  | ordinal index direction nulls span =>
    unfold itemKey
    dsimp only
    split
    · exact yields_pure rfl
    · exact yields_throw (Segment.Raises.ordinal hx index span).blamed

theorem yields_orderItem (hgo : Answers operators go) (hx : x.query? = some q)
    (item : OrderItem) (hitem : ∀ p ∈ item.visits, p ∈ x.visits) :
    Yields (x.Blamed operators) (orderItem go item) fun o => o.isSome := by
  refine yields_part (yields_itemKey hgo hx item hitem) fun p => ?_
  refine yields_bind (Q := fun _ => True) ?_ fun q _ => yields_bind (Q := fun _ => True) ?_
    fun r _ => yields_pure rfl
  · cases item.direction <;> exact yields_of_result (fun _ => rfl) trivial
  · rcases item.nulls with _ | _ | _ <;> exact yields_of_result (fun _ => rfl) trivial

/-- A number of rows fails only if it is out of range. -/
theorem yields_page (hx : x.query? = some q) (value : PageValue) :
    Yields (x.Blamed operators) (pageValue value) fun _ => True := by
  unfold pageValue
  split
  · split
    · exact yields_pure trivial
    · exact yields_throw (Segment.Raises.page hx _ _).blamed
  · exact yields_pure trivial

theorem yields_selectItems (hgo : Answers operators go) :
    ∀ (ordinal : Nat) (ps : List Projection), (∀ p ∈ ps, .projection p ∈ x.visits) →
      Yields (x.Blamed operators) (selectItems go ordinal ps)
        fun plans => plans.length = ps.length
  | _, [], _ => yields_pure rfl
  | ordinal, p :: ps, hps => by
    obtain ⟨hp, hps⟩ := List.forall_mem_cons.1 hps
    refine yields_step (fun _ => rfl) ?_
    refine yields_part (yields_visited hgo hp) fun plan => ?_
    refine yields_bind (yields_selectItems hgo (ordinal + 1) ps hps) fun plans hplans => ?_
    exact yields_pure (congrArg Nat.succ hplans)

/-- A hollow source is to be blamed on the SELECT it stands in. -/
theorem yields_source (hgo : Answers operators go) (hx : x.query? = some q) :
    Yields (x.Blamed operators) (Conversion.source go q.source) fun _ => True := by
  cases hsource : q.source with
  | none => exact yields_pure trivial
  | some t =>
    refine yields_filled hgo ?_ rfl (fun _ => rfl) fun h =>
      (Segment.Raises.clause (.source hx hsource h)).blamed
    simp [Segment.visits_of_query? hx, Select.visits, hsource]

theorem yields_condition (hgo : Answers operators go) (clause : Clause)
    {c : Option SqlAlgebra.Condition} (hc : ∀ p ∈ conditionVisits c, p ∈ x.visits) :
    Yields (x.Blamed operators)
      (whenPresent (fun c => required clause c.span (condition go c)) c) fun _ => True := by
  refine yields_whenPresent fun c' hc' => yields_required (yields_expr hgo (hc _ ?_))
  simp [conditionVisits, Option.mem_def.1 hc']

theorem mem_orderVisits {c : OrderClause} {item : OrderItem} {p : Segment}
    (hitem : item ∈ c.items) (hp : p ∈ item.visits) : p ∈ orderVisits (some c) :=
  List.mem_flatMap.2 ⟨c, by simp, List.mem_flatMap.2 ⟨item, hitem, hp⟩⟩

/-- A clause of keys fails by itself only if it has none. -/
theorem yields_orderKeys {f : OrderItem → ConvertM (Option Plan)} {clause : Clause}
    {c : Option OrderClause}
    (hf : ∀ item, (∀ p ∈ item.visits, p ∈ x.visits) →
      Yields (x.Blamed operators) (f item) fun o => o.isSome)
    (hc : ∀ p ∈ orderVisits c, p ∈ x.visits)
    (hempty : ∀ c' ∈ c, c'.items = [] → x.Blamed operators (.emptyClause clause c'.span)) :
    Yields (x.Blamed operators)
      (whenPresent (fun c => required clause c.span (nonEmpty <$> kept f c.items)) c)
      fun _ => True := by
  refine yields_whenPresent fun c' hc' => yields_keys (yields_kept c'.items fun item hitem => ?_)
    (hempty c' hc')
  obtain rfl := Option.mem_def.1 hc'
  exact hf item fun p hp => hc p (mem_orderVisits hitem hp)

/-- A SELECT fails by itself for a clause with nothing in it, a position or a number of rows. -/
theorem yields_select (hgo : Answers operators go) (hx : x.query? = some q) :
    Yields (x.Blamed operators) (Conversion.select go q) fun _ => True := by
  have hvisits := Segment.visits_of_query? hx
  refine yields_inScope (yields_map (Q := fun _ => True) ?_ fun _ _ => trivial)
  refine yields_bind (yields_source hgo hx) fun _ _ => ?_
  refine yields_bind (yields_condition hgo .condition ?_) fun _ _ => ?_
  · simp +contextual [hvisits, Select.visits]
  refine yields_bind (yields_orderKeys (yields_itemKey hgo hx) ?_ ?_) fun _ _ => ?_
  · simp +contextual [hvisits, Select.visits]
  · exact fun c hc h => (Segment.Raises.clause (.groupBy hx hc h)).blamed
  refine yields_bind (yields_condition hgo .having ?_) fun _ _ => ?_
  · simp +contextual [hvisits, Select.visits]
  refine yields_bind (yields_whenPresent fun l hl => yields_map (Q := fun _ => True) ?_
    fun _ _ => trivial) fun _ _ => ?_
  · refine yields_keys (yields_selectItems hgo 0 l.items fun p hp => ?_) fun h =>
      (Segment.Raises.clause (.selectList hx hl h)).blamed
    simp only [hvisits, Select.visits, Option.mem_def.1 hl]
    simp [hp]
  refine yields_bind (yields_orderKeys (yields_orderItem hgo hx) ?_ ?_) fun _ _ => ?_
  · simp +contextual [hvisits, Select.visits]
  · exact fun c hc h => (Segment.Raises.clause (.orderBy hx hc h)).blamed
  refine yields_bind (yields_whenPresent fun value _ => yields_page hx value) fun _ _ => ?_
  refine yields_bind (yields_whenPresent fun value _ => yields_page hx value) fun _ _ => ?_
  refine yields_bind (yields_whenPresent fun c hc => yields_map (Q := fun _ => True)
    (yields_required (yields_nested hgo ?_)) fun _ _ => trivial) fun _ _ => yields_pure trivial
  simp [hvisits, Select.visits, Option.mem_def.1 hc]

end Selects

/-! ## Statements -/

section Statements

variable {st : Statement}

theorem yields_columns : ∀ cs : List Column, Yields F (columns cs) fun _ => True
  | [] => yields_pure trivial
  | c :: cs => yields_bind (yields_column c) fun _ _ =>
      yields_bind (yields_columns cs) fun _ _ => yields_pure trivial

/-- A SET list fails by itself only for an assignment of several columns. -/
theorem yields_assignments (hgo : Answers operators go) :
    ∀ as : List Assignment,
      (∀ p ∈ assignmentVisits as, p ∈ (Segment.statement st).visits) →
      Yields ((Segment.statement st).Blamed operators) (assignments go as)
        fun o => ∃ names values, o = some (names, values) ∧ names.length = as.length
  | [], _ => yields_pure ⟨[], [], rfl, rfl⟩
  | a :: as, has => by
    obtain ⟨ha, has⟩ := List.forall_mem_cons.1 has
    unfold assignments
    split
    · refine yields_bind (yields_column _) fun name _ => ?_
      refine yields_part (yields_expr hgo ha) fun value => ?_
      refine yields_bind (yields_assignments hgo as has) ?_
      rintro _ ⟨names, values, rfl, hlength⟩
      exact yields_pure ⟨name :: names, value :: values, rfl, congrArg Nat.succ hlength⟩
    · exact yields_throw (Segment.Raises.feature ..).blamed

/-- The rows of VALUES fail by themselves only for their length. -/
theorem yields_valuesRows (hgo : Answers operators go) {s : Insert} (width : Nat) :
    ∀ rows : List ValuesRow,
      (∀ row ∈ rows, ∀ e ∈ row.values,
        .expression e ∈ (Segment.statement (.insert s)).visits) →
      Yields ((Segment.statement (.insert s)).Blamed operators) (valuesRows go width rows)
        fun o => o.isSome
  | [], _ => yields_pure rfl
  | row :: rows, hrows => by
    obtain ⟨hrow, hrows⟩ := List.forall_mem_cons.1 hrows
    unfold valuesRows
    split
    · refine yields_bind (yields_expressions hgo .insertStatement row.values hrow) ?_
      rintro _ ⟨values, rfl, -⟩
      exact yields_part (yields_valuesRows hgo width rows hrows) fun _ => yields_pure rfl
    · exact yields_throw (Segment.Raises.insert ..).blamed

theorem yields_insertSource (hgo : Answers operators go) (s : Insert) (listed : List Plan) :
    Yields ((Segment.statement (.insert s)).Blamed operators) (insertSource go s listed)
      fun o => o.isSome := by
  unfold insertSource
  cases hset : s.set with
  | some set =>
    dsimp only
    split
    · refine yields_bind (yields_assignments hgo set.assignments ?_) ?_
      · simp +contextual [Segment.visits, Statement.visits, hset]
      rintro _ ⟨names, values, rfl, -⟩
      exact yields_pure rfl
    · exact yields_throw (Segment.Raises.insert ..).blamed
  | none =>
    cases hquery : s.query with
    | some query =>
      refine yields_bind (yields_required (yields_nested hgo ?_)) fun _ _ => yields_pure rfl
      simp [Segment.visits, Statement.visits, hquery]
    | none =>
      refine yields_part (yields_valuesRows hgo s.width s.rows ?_) fun _ => yields_pure rfl
      intro row hrow e he
      refine List.mem_append_right _ (List.mem_flatMap.2 ⟨row, hrow, ?_⟩)
      exact List.mem_map_of_mem he

/-- An INSERT fails by itself only for a defect. -/
theorem yields_insert (hgo : Answers operators go) (s : Insert) :
    Yields ((Segment.statement (.insert s)).Blamed operators) (Conversion.insert go s)
      fun o => o.isSome := by
  unfold Conversion.insert
  split
  · refine yields_inScope (yields_step (fun _ => rfl) ?_)
    refine yields_bind (yields_columns s.columns) fun listed _ => ?_
    exact yields_part (yields_insertSource hgo s listed) fun _ => yields_pure rfl
  · exact yields_throw (Segment.Raises.insert ..).blamed

/-- ORDER BY and LIMIT are to be blamed on the statement they stand in. -/
theorem yields_unordered {m : ConvertM α} {Q : α → Prop} {modification : Modification}
    {orderBy : Option OrderClause} {page : Option Limit} {span : Span}
    (hm : Yields ((Segment.statement st).Blamed operators) m Q) :
    Yields ((Segment.statement st).Blamed operators)
      (unordered modification orderBy page span m) Q := by
  unfold unordered
  split
  · exact yields_throw (Segment.Raises.feature ..).blamed
  · exact hm

/-- A hollow target is to be blamed on the statement it stands in. -/
theorem yields_target (hgo : Answers operators go) {t : Table}
    (hx : (Segment.statement st).target? = some t)
    (ht : .table t ∈ (Segment.statement st).visits) :
    Yields ((Segment.statement st).Blamed operators) (target go t) fun _ => True :=
  yields_filled hgo ht rfl (fun _ => rfl) fun h => (Segment.Raises.clause (.target hx h)).blamed

theorem yields_update (hgo : Answers operators go) (s : Update) :
    Yields ((Segment.statement (.update s)).Blamed operators) (update go s)
      fun o => o.isSome := by
  refine yields_unordered (yields_inScope ?_)
  refine yields_bind (yields_target hgo rfl ?_) fun relation _ => ?_
  · simp [Segment.visits, Statement.visits]
  refine yields_bind (yields_assignments hgo s.set.assignments ?_) ?_
  · simp +contextual [Segment.visits, Statement.visits]
  rintro _ ⟨names, values, rfl, hlength⟩
  dsimp only
  split
  · rename_i hnone
    have hnil : s.set.assignments = [] := by
      rw [← List.length_eq_zero_iff, ← hlength, List.isEmpty_iff.1 hnone, List.length_nil]
    refine yields_bind (Q := fun _ => True) ?_ fun _ _ => ?_
    · exact yields_throw (Segment.Raises.clause (.assignments hnil)).blamed
    · refine yields_bind (yields_condition hgo .condition ?_) fun _ _ => yields_pure rfl
      simp +contextual [Segment.visits, Statement.visits]
  · refine yields_bind (yields_condition hgo .condition ?_) fun _ _ => yields_pure rfl
    simp +contextual [Segment.visits, Statement.visits]

theorem yields_delete (hgo : Answers operators go) (s : Delete) :
    Yields ((Segment.statement (.delete s)).Blamed operators) (Conversion.delete go s)
      fun _ => True := by
  refine yields_unordered (yields_inScope ?_)
  refine yields_bind (yields_target hgo rfl ?_) fun relation _ => ?_
  · simp [Segment.visits, Statement.visits]
  refine yields_bind (yields_condition hgo .condition ?_) fun _ _ => yields_pure trivial
  simp +contextual [Segment.visits, Statement.visits]

/-- A statement that has been entered fails with what is to be blamed on it. -/
theorem yields_statement (settings : CompilerSettings) (hgo : Answers operators go)
    (st : Statement) :
    Yields ((Segment.statement st).Blamed operators)
      ((Compiler.standard settings operators).convertEntered go (.statement st))
      fun o => o.isSome := by
  cases st with
  | select q => exact yields_map (yields_select hgo rfl) fun _ _ => rfl
  | insert s => exact yields_insert hgo s
  | update s => exact yields_update hgo s
  | delete s => exact yields_map (yields_delete hgo s) fun _ _ => rfl

end Statements

/-! ## Conversions -/

namespace Compiler

variable (settings : CompilerSettings)

/-- A segment that has been entered fails with what is to be blamed on it, if its descent does so
for what is visited below. -/
theorem yields_convertEntered (hgo : Answers operators go) (x : Segment) :
    Yields (x.Blamed operators) ((standard settings operators).convertEntered go x)
      fun o => o.isSome = !x.hollow := by
  cases x with
  | table t => exact yields_table settings hgo t
  | projection p => exact yields_projection settings hgo p
  | expression e => exact yields_expression settings hgo e
  | statement st => exact yields_statement settings hgo st
  | select q => exact yields_map (yields_select hgo rfl) fun _ _ => rfl

variable (operators)

/-- With the standard rules over any operators, a conversion gives nothing for a hollow table
only, and its failures are raised by segments that it visits. -/
theorem answers_convertWithin : ∀ levels : Nat,
    Answers operators ((standard settings operators).convertWithin levels)
  | 0, x => yields_throw (Segment.Raises.level x _).blamed
  | levels + 1, x => by
    have hentered := yields_convertEntered settings (answers_convertWithin levels) x
    refine yields_bind (Q := fun _ => True) ⟨fun _ => trivial⟩ fun here _ => ?_
    exact yields_step (fun _ => rfl) ⟨hentered.ends.entering⟩

/-- From every state, a segment has a plan unless it is hollow, or fails with what is to be blamed
on it. -/
theorem result_convert (x : Segment) (s : Session) :
    Result (x.Blamed operators) (fun o => o.isSome = !x.hollow)
      (((standard settings operators).convert x).outcome s).1 :=
  (answers_convertWithin operators settings _ x).ends s

/-- The failures of a statement that converters are to blame for. A rule never meets a segment
of another kind, and every call is built with as many operands as its operator takes. What is
left are segments that no rule converts: raw expression text, and targets of a delete from
several tables. A statement that does not visit such a segment never fails for want of a
fitting converter. -/
theorem tryConvert_eq_error {st : Statement} {e : ConvertError}
    (h : (⟨settings, .standard⟩ : Compiler).tryConvert st = .error e) :
    (∀ expected actual, e ≠ .converterMismatch expected actual) ∧
    (∀ error, e ≠ .invalidArity error) ∧
    (∀ kind span path, e = .unsupportedSegment kind span path →
      (kind = .commonExpression ∨ kind = .deleteMultiTable) ∧
      ∃ y, (Segment.statement st).Reaches y ∧ y.kind = kind ∧ y.span = span) ∧
    ((∀ y, (Segment.statement st).Reaches y →
      y.kind ≠ .commonExpression ∧ y.kind ≠ .deleteMultiTable) → e.isFatal = false) := by
  have hresult := result_convert .standard settings (.statement st) {}
  have hrun : (((standard settings .standard).convert (.statement st)).outcome {}).1 =
      .error e := h
  rw [hrun] at hresult
  obtain ⟨y, hy, he⟩ := hresult
  cases he with
  | operands hop ha => exact absurd (accepts_of_resolveBinary? hop) ha
  | refusal hx path =>
    have hkind : y.kind = .commonExpression ∨ y.kind = .deleteMultiTable := by
      simpa [SegmentKind.isRefused] using hx
    refine ⟨by simp, by simp, ?_, fun hnone => ?_⟩
    · rintro _ _ _ ⟨⟩
      exact ⟨hkind, y, hy, rfl, rfl⟩
    · obtain ⟨hcommon, hmulti⟩ := hnone y hy
      exact (hkind.elim hcommon hmulti).elim
  | _ => exact ⟨by simp, by simp, by simp, fun _ => rfl⟩

/-- `SELECT <raw text>`. -/
def rawItem : Statement :=
  .select ⟨some ⟨false, [.expression (.common "1 + 1" ⟨7, 11⟩) none .zero], .zero⟩,
    none, none, none, none, none, none, none, .zero⟩

/-- Raw text is refused, and it is in the statement where the failure says. -/
theorem tryConvert_eq_error_rawItem :
    ({} : Compiler).tryConvert rawItem = .error (.unsupportedSegment .commonExpression ⟨7, 11⟩
      [.selectStatement, .expressionProjection, .commonExpression]) ∧
    ∃ y, (Segment.statement rawItem).Reaches y ∧ y.kind = .commonExpression ∧
      y.span = ⟨7, 11⟩ := by
  have h : ({} : Compiler).tryConvert rawItem = .error (.unsupportedSegment .commonExpression
      ⟨7, 11⟩ [.selectStatement, .expressionProjection, .commonExpression]) := by
    rfl
  exact ⟨h, ((tryConvert_eq_error {} h).2.2.1 _ _ _ rfl).2⟩

end Compiler

end SqlAlgebra
