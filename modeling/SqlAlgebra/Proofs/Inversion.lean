import SqlAlgebra.Proofs.Form
import SqlAlgebra.Proofs.Restoration

/-!
# Reading conversions backwards

A conversion that ends with a plan was put together from conversions of its parts that did.
With the standard registry, the plan then has the form that `SqlAlgebra.Proofs.Form` gives for
its segment. Each lemma here opens one conversion rule, under the assumption that the descent
meets a `PartSpec` (`Reads`); `Compiler.reads_convertWithin` closes the circle by induction on
the levels, and `tryConvert_form` is what is left of it for a whole statement: a `PartSpec`
that every form hands on holds of all plans.
-/

namespace SqlAlgebra

open Conversion ConvertM

/-- The descent leaves contexts as conversions do, and what it gives meets `K`. Only a table
may convert to nothing. -/
structure Reads (go : Descent) (K : PartSpec) : Prop where
  keeps : ∀ s, Keeps s.effect (go s)
  expr : ∀ {x s o t}, (go (.expression x)).outcome s = (.ok o, t) →
    ∃ p, o = some p ∧ K.expr x p
  select : ∀ {q s o t}, (go (.select q)).outcome s = (.ok o, t) →
    ∃ p, o = some p ∧ K.select q p
  table : ∀ {x s p t}, (go (.table x)).outcome s = (.ok (some p), t) → K.table x p
  item : ∀ {x s o t}, (go (.projection x)).outcome s = (.ok o, t) →
    ∃ p, o = some p ∧ K.item s.context.ordinal x p

variable {go : Descent} {K : PartSpec} {s t : Session}

/-! ## Expressions -/

/-- The plan of a column is its qualified name. -/
theorem column_eq_ok {c : Column} {p : Plan} (h : (column c).outcome s = (.ok p, t)) :
    p = .identifier c.qualifiedName c.span := by
  have hc := result_column c s
  rw [h] at hc
  exact Except.ok.inj hc

/-- A call that succeeds has as many operands as its operator accepts. -/
theorem call_eq_ok {op : Operator} {operands : List Plan} {distinct : Bool} {span : Span}
    {p : Plan} (h : (call op operands distinct span).outcome s = (.ok p, t)) :
    p = .call op operands distinct span ∧ op.arity.accepts operands.length := by
  unfold call Plan.apply at h
  by_cases ha : op.arity.accepts operands.length = true
  · rw [if_pos ha] at h
    exact ⟨(outcome_pure_eq_ok h).1, ha⟩
  · rw [if_neg ha] at h
    cases h

theorem callSome_eq_ok {op : Operator} {operands : List Plan} {distinct : Bool} {span : Span}
    {o : Option Plan}
    (h : (do return some (← call op operands distinct span) : ConvertM (Option Plan)).outcome s =
      (.ok o, t)) : o = some (.call op operands distinct span) ∧
        op.arity.accepts operands.length := by
  obtain ⟨p, u, hp, h⟩ := outcome_bind_eq_ok h
  obtain ⟨rfl, ha⟩ := call_eq_ok hp
  exact ⟨(outcome_pure_eq_ok h).1, ha⟩

/-- A list of expressions that converts has a plan for each of them, in order. -/
theorem expressions_form (hgo : Reads go K) (owner : SegmentKind) :
    ∀ (xs : List Expr) {s t : Session} {o : Option (List Plan)},
      (expressions go owner xs).outcome s = (.ok o, t) →
        ∃ ps, o = some ps ∧ List.Forall₂ K.expr xs ps
  | [], _, _, _, h => ⟨[], (outcome_pure_eq_ok h).1, .nil⟩
  | x :: xs, _, _, _, h => by
    obtain ⟨_, _, hx, h⟩ := outcome_bind_eq_ok h
    obtain ⟨p, rfl, hp⟩ := hgo.expr hx
    obtain ⟨_, _, hxs, h⟩ := outcome_bind_eq_ok h
    obtain ⟨ps, rfl, hps⟩ := expressions_form hgo owner xs hxs
    exact ⟨p :: ps, (outcome_pure_eq_ok h).1, .cons hp hps⟩

/-- The plan of a binary operation drops the right side of a test and calls any other operator with
both sides. -/
theorem binary_form (hgo : Reads go K) {operators : OperatorTable} {left right : Expr}
    {operator : String} {span : Span} {o : Option Plan}
    (h : (binary operators go left operator right span).outcome s = (.ok o, t)) :
    ∃ p, o = some p ∧ ExprForm operators K (.binary left operator right span) p := by
  rw [binary, operators.resolveBinary?_collapsed] at h
  split at h
  · rename_i negated hoperator
    split at h
    · cases h
    · rename_i op hright
      obtain ⟨_, _, hl, h⟩ := outcome_bind_eq_ok h
      obtain ⟨p, rfl, hp⟩ := hgo.expr hl
      exact ⟨_, (callSome_eq_ok h).1, .test hoperator hright hp⟩
  · rename_i htest
    split at h
    · cases h
    · rename_i op hoperator
      obtain ⟨_, _, hl, h⟩ := outcome_bind_eq_ok h
      obtain ⟨p, rfl, hp⟩ := hgo.expr hl
      obtain ⟨_, _, hr, h⟩ := outcome_bind_eq_ok h
      obtain ⟨q, rfl, hq⟩ := hgo.expr hr
      obtain ⟨ho, ha⟩ := callSome_eq_ok h
      exact ⟨_, ho, .binary htest hoperator ha hp hq⟩

theorem negation_form (hgo : Reads go K) {operators : OperatorTable} {operand : Expr}
    {span : Span} {o : Option Plan} (h : (negation go operand span).outcome s = (.ok o, t)) :
    ∃ p, o = some p ∧ ExprForm operators K (.negation operand span) p := by
  obtain ⟨_, _, hx, h⟩ := outcome_bind_eq_ok h
  obtain ⟨p, rfl, hp⟩ := hgo.expr hx
  exact ⟨_, (callSome_eq_ok h).1, .negation hp⟩

/-- The plan of IN has the rows of a subquery, or the list, as its second operand. -/
theorem membership_form (hgo : Reads go K) {operators : OperatorTable} {left right : Expr}
    {negated : Bool} {span : Span} {o : Option Plan}
    (h : (membership go left right negated span).outcome s = (.ok o, t)) :
    ∃ p, o = some p ∧ ExprForm operators K (.membership left right negated span) p := by
  obtain ⟨_, _, hl, h⟩ := outcome_bind_eq_ok h
  obtain ⟨p, rfl, hp⟩ := hgo.expr hl
  obtain ⟨_, _, hr, h⟩ := outcome_bind_eq_ok h
  unfold memberSource at hr
  split at hr
  · obtain ⟨q, rfl, hq⟩ := hgo.select hr
    exact ⟨_, (callSome_eq_ok h).1, .memberOfQuery hp hq⟩
  · rename_i hright
    obtain ⟨q, rfl, hq⟩ := hgo.expr hr
    exact ⟨_, (callSome_eq_ok h).1, .memberOfItems hright hp hq⟩

theorem between_form (hgo : Reads go K) {operators : OperatorTable} {operand low high : Expr}
    {negated : Bool} {span : Span} {o : Option Plan}
    (h : (between go operand low high negated span).outcome s = (.ok o, t)) :
    ∃ p, o = some p ∧ ExprForm operators K (.between operand low high negated span) p := by
  obtain ⟨_, _, hx, h⟩ := outcome_bind_eq_ok h
  obtain ⟨ps, rfl, hps⟩ := expressions_form hgo .between _ hx
  rcases hps with _ | ⟨hp, _ | ⟨hq, _ | ⟨hr, _ | _⟩⟩⟩
  exact ⟨_, (callSome_eq_ok h).1, .between hp hq hr⟩

theorem list_form (hgo : Reads go K) {operators : OperatorTable} {items : List Expr}
    {span : Span} {o : Option Plan} (h : (list go items span).outcome s = (.ok o, t)) :
    ∃ p, o = some p ∧ ExprForm operators K (.list items span) p := by
  obtain ⟨_, _, hx, h⟩ := outcome_bind_eq_ok h
  obtain ⟨ps, rfl, hps⟩ := expressions_form hgo .list _ hx
  exact ⟨_, (outcome_pure_eq_ok h).1, .list hps⟩

theorem arguments_form (hgo : Reads go K) {operators : OperatorTable} {name : String}
    {arguments : List Expr} {span : Span} {e : ConvertError} {o : Option Plan}
    {f : Option (List Plan) → ConvertM (Option Plan)}
    (hf : ∀ ps, f (some ps) = do
      return some (← call (operators.resolveFunction name) ps false span))
    (h : (if (operators.resolveFunction name).arity.accepts arguments.length then
      expressions go .function arguments >>= f else throw e).outcome s = (.ok o, t)) :
    ∃ p, o = some p ∧ ExprForm operators K (.function name arguments span) p := by
  split at h
  · rename_i ha
    obtain ⟨_, _, hx, h⟩ := outcome_bind_eq_ok h
    obtain ⟨ps, rfl, hps⟩ := expressions_form hgo .function _ hx
    rw [hf] at h
    exact ⟨_, (callSome_eq_ok h).1, .function ha hps⟩
  · cases h

/-- The plan of a function call calls what the table has for its name, with all arguments. -/
theorem function_form (hgo : Reads go K) {operators : OperatorTable} {name : String}
    {arguments : List Expr} {span : Span} {o : Option Plan}
    (h : (function operators go name arguments span).outcome s = (.ok o, t)) :
    ∃ p, o = some p ∧ ExprForm operators K (.function name arguments span) p := by
  unfold function at h
  dsimp only at h
  split at h
  · obtain ⟨_, _, -, h⟩ := outcome_bind_eq_ok h
    exact arguments_form hgo (fun _ => rfl) h
  · exact arguments_form hgo (fun _ => rfl) h

/-- The plan of an aggregate call has all its arguments, or counts rows if it has none. -/
theorem aggregation_form (hgo : Reads go K) {a : Aggregation} {o : Option Plan}
    (h : (aggregation go a).outcome s = (.ok o, t)) :
    ∃ p, o = some p ∧ AggregateForm K a p := by
  obtain ⟨_, _, hx, hcall⟩ := outcome_bind_eq_ok h
  unfold aggregateOperands at hx
  dsimp only at hx
  split at hx
  · rename_i hnone
    split at hx
    · rename_i hcount
      obtain ⟨rfl, rfl⟩ := outcome_pure_eq_ok hx
      have hfunction : a.function = .count := by
        revert hcount
        cases a.function <;> decide
      obtain ⟨ho, -⟩ := callSome_eq_ok hcall
      rw [hfunction] at ho
      exact ⟨_, ho, .rows hfunction (List.isEmpty_iff.1 hnone)⟩
    · cases hx
  · rename_i hsome
    split at hx
    · rename_i ha
      obtain ⟨ps, rfl, hps⟩ := expressions_form hgo .aggregation _ hx
      refine ⟨_, (callSome_eq_ok hcall).1, .arguments (fun hnil => hsome ?_) ha hps⟩
      exact List.isEmpty_iff.2 hnil
    · cases hx

theorem scalarSubquery_form (hgo : Reads go K) {query : Subquery} {o : Option Plan}
    (h : (scalarSubquery go query).outcome s = (.ok o, t)) :
    ∃ p, o = some (.call (.core .scalarQuery) [p] false query.span) ∧
      K.select query.select p := by
  obtain ⟨_, _, hx, h⟩ := outcome_bind_eq_ok h
  obtain ⟨p, rfl, hp⟩ := hgo.select hx
  exact ⟨p, (callSome_eq_ok h).1, hp⟩

/-- The plan of NOT EXISTS negates that of EXISTS. -/
theorem existence_form (hgo : Reads go K) {operators : OperatorTable} {query : Subquery}
    {negated : Bool} {span : Span} {o : Option Plan}
    (h : (existence go query negated span).outcome s = (.ok o, t)) :
    ∃ p, o = some p ∧ ExprForm operators K (.existence query negated span) p := by
  obtain ⟨_, _, hx, h⟩ := outcome_bind_eq_ok h
  obtain ⟨p, rfl, hp⟩ := hgo.select hx
  obtain ⟨_, _, htest, h⟩ := outcome_bind_eq_ok h
  obtain ⟨rfl, -⟩ := call_eq_ok htest
  cases negated with
  | false => exact ⟨_, (outcome_pure_eq_ok h).1, .existence hp⟩
  | true => exact ⟨_, (callSome_eq_ok h).1, .absence hp⟩

/-- The branches of a CASE have plans in turns, one for each condition and one for each result. -/
theorem branches_form (hgo : Reads go K) :
    ∀ (whens thens : List Expr) {s t : Session} {o : Option (List Plan)},
      (branches go whens thens).outcome s = (.ok o, t) →
        ∃ ps, o = some ps ∧ List.Forall₂ K.expr (interleaved whens thens) ps
  | [], _, _, _, _, h => ⟨[], (outcome_pure_eq_ok h).1, .nil⟩
  | _ :: _, [], _, _, _, h => ⟨[], (outcome_pure_eq_ok h).1, .nil⟩
  | w :: ws, x :: xs, _, _, _, h => by
    obtain ⟨_, _, hw, h⟩ := outcome_bind_eq_ok h
    obtain ⟨p, rfl, hp⟩ := hgo.expr hw
    obtain ⟨_, _, hx, h⟩ := outcome_bind_eq_ok h
    obtain ⟨q, rfl, hq⟩ := hgo.expr hx
    obtain ⟨_, _, hrest, h⟩ := outcome_bind_eq_ok h
    obtain ⟨ps, rfl, hps⟩ := branches_form hgo ws xs hrest
    exact ⟨p :: q :: ps, (outcome_pure_eq_ok h).1, .cons hp (.cons hq hps)⟩

theorem caseOperand_form (hgo : Reads go K) :
    ∀ {operand : Option Expr} {s t : Session} {o : Option (List Plan)},
      (caseOperand go operand).outcome s = (.ok o, t) →
        ∃ ps, o = some ps ∧ List.Forall₂ K.expr operand.toList ps
  | none, _, _, _, h => ⟨[], (outcome_pure_eq_ok h).1, .nil⟩
  | some x, _, _, _, h => by
    obtain ⟨_, _, hx, h⟩ := outcome_bind_eq_ok h
    obtain ⟨p, rfl, hp⟩ := hgo.expr hx
    exact ⟨[p], (outcome_pure_eq_ok h).1, .cons hp .nil⟩

theorem caseOtherwise_form (hgo : Reads go K) :
    ∀ {otherwise : Option Expr} {s t : Session} {o : Option Plan},
      (caseOtherwise go otherwise).outcome s = (.ok o, t) →
        ∃ p, o = some p ∧ OtherwiseForm K otherwise p
  | none, _, _, _, h => ⟨_, (outcome_pure_eq_ok h).1, .none⟩
  | some _, _, _, _, h => by
    obtain ⟨p, rfl, hp⟩ := hgo.expr h
    exact ⟨p, rfl, .some hp⟩

/-- The plan of a CASE has its operand, its branches and its default, in this order. -/
theorem caseWhen_form (hgo : Reads go K) {operators : OperatorTable}
    {operand otherwise : Option Expr} {whens thens : List Expr} {span : Span} {o : Option Plan}
    (h : (caseWhen go operand whens thens otherwise span).outcome s = (.ok o, t)) :
    ∃ p, o = some p ∧
      ExprForm operators K (.caseWhen operand whens thens otherwise span) p := by
  unfold caseWhen at h
  split at h
  · cases h
  · rename_i hcount
    simp only [Bool.or_eq_true, List.isEmpty_iff, bne_iff_ne, not_or, not_not] at hcount
    obtain ⟨_, _, h₁, h⟩ := outcome_bind_eq_ok h
    obtain ⟨lead, rfl, hlead⟩ := caseOperand_form hgo h₁
    obtain ⟨_, _, h₂, h⟩ := outcome_bind_eq_ok h
    obtain ⟨middle, rfl, hmiddle⟩ := branches_form hgo whens thens h₂
    obtain ⟨_, _, h₃, h⟩ := outcome_bind_eq_ok h
    obtain ⟨last, rfl, hlast⟩ := caseOtherwise_form hgo h₃
    exact ⟨_, (callSome_eq_ok h).1,
      .caseWhen hcount.1 hcount.2 (List.rel_append hlead hmiddle) hlast⟩

/-! ## Select-list items -/

/-- A column in a select list is titled if it has an alias. -/
theorem columnItem_form {c : Column} {aliasName : Option String} {span : Span} {p : Plan}
    (h : (columnItem c aliasName span).outcome s = (.ok p, t)) :
    p = (Plan.identifier c.qualifiedName c.span).titled aliasName span := by
  obtain ⟨q, _, hq, h⟩ := outcome_bind_eq_ok h
  obtain rfl := column_eq_ok hq
  cases aliasName with
  | none => exact (outcome_pure_eq_ok h).1
  | some name => exact (outcome_pure_eq_ok h).1

/-- What `m` gives is named by its alias or by its position, which `m` has left alone. -/
theorem titled_of_outcome {settings : CompilerSettings} {kind : SegmentKind}
    {aliasName : Option String} {span : Span} {m : ConvertM (Option Plan)}
    {f : Option Plan → ConvertM (Option Plan)} {Q : Plan → Prop} {o : Option Plan}
    (hf : ∀ p, f (some p) = do return some (← named settings kind aliasName span p))
    (hk : Keeps .quiet m)
    (hm : ∀ {o t}, m.outcome s = (.ok o, t) → ∃ p, o = some p ∧ Q p)
    (h : (m >>= f).outcome s = (.ok o, t)) :
    ∃ p, Q p ∧ o = some (p.titled
      (aliasName.or (settings.derivedAlias? s.context.ordinal)) span) := by
  obtain ⟨_, u, hx, h⟩ := outcome_bind_eq_ok h
  have hcontext : u.context = s.context := by
    have h := hk s
    rw [hx] at h
    exact h
  obtain ⟨p, rfl, hp⟩ := hm hx
  rw [hf] at h
  obtain ⟨q, _, hq, h⟩ := outcome_bind_eq_ok h
  have hnamed := result_named settings kind aliasName span p u
  rw [hq, hcontext] at hnamed
  obtain rfl := Except.ok.inj hnamed
  exact ⟨p, hp, (outcome_pure_eq_ok h).1⟩

/-- The plan of an item is known at the position at which the item stands. -/
theorem projectionRule_form (hgo : Reads go K) {settings : CompilerSettings}
    {rule : ProjectionRule} {x : Projection} {o : Option Plan}
    (h : (rule.apply settings go x).outcome s = (.ok o, t)) :
    ∃ p, o = some p ∧ ItemForm settings K s.context.ordinal x p := by
  unfold ProjectionRule.apply at h
  split at h
  · obtain ⟨p, hp, rfl⟩ := outcome_map_eq_ok h
    obtain rfl := columnItem_form hp
    exact ⟨_, rfl, .column _ _ _⟩
  · obtain ⟨p, hp, rfl⟩ := titled_of_outcome (fun _ => rfl) (hgo.keeps (.expression _)) hgo.expr h
    exact ⟨_, rfl, .expression hp⟩
  · obtain ⟨p, hp, rfl⟩ := titled_of_outcome (fun _ => rfl)
      ((program_aggregation _).keeps hgo.keeps) (aggregation_form hgo) h
    exact ⟨_, rfl, .aggregation hp⟩
  · exact ⟨_, (outcome_pure_eq_ok h).1, .shorthand _ _⟩
  · rename_i query _ _
    have hquery : ∀ {o t}, (scalarSubquery go query).outcome s = (.ok o, t) →
        ∃ r, o = some r ∧ ∃ p, r = .call (.core .scalarQuery) [p] false query.span ∧
          K.select query.select p := fun hx => by
      obtain ⟨p, ho, hp⟩ := scalarSubquery_form hgo hx
      exact ⟨_, ho, p, rfl, hp⟩
    obtain ⟨_, ⟨p, rfl, hp⟩, rfl⟩ := titled_of_outcome (fun _ => rfl)
      ((program_scalarSubquery _).keeps hgo.keeps) hquery h
    exact ⟨_, rfl, .subquery hp⟩
  · cases h

/-- The plans of a select list stand in the order of the items, each of them converted at its
position. -/
theorem selectItems_form (hgo : Reads go K) :
    ∀ (ordinal : Nat) (ps : List Projection) {s t : Session} {plans : List Plan},
      s.context.scopes ≠ [] → (selectItems go ordinal ps).outcome s = (.ok plans, t) →
        ItemsForm K ordinal ps plans
  | ordinal, [], _, _, _, _, h => by
    obtain ⟨rfl, rfl⟩ := outcome_pure_eq_ok h
    exact .nil ordinal
  | ordinal, p :: ps, s, _, _, hs, h => by
    obtain ⟨_, u, hset, h⟩ := outcome_bind_eq_ok h
    obtain rfl : s.modifyContext (.setOrdinal ordinal) = u := (Prod.mk.inj hset).2
    obtain ⟨_, v, hitem, h⟩ := outcome_bind_eq_ok h
    have hu : (s.modifyContext (.setOrdinal ordinal)).context.scopes ≠ [] :=
      Context.scopes_modifyScope_ne_nil hs
    have hv := (hgo.keeps (.projection p)).scopes_ne_nil hitem hu
    obtain ⟨plan, rfl, hplan⟩ := hgo.item hitem
    obtain ⟨plans, _, hrest, h⟩ := outcome_bind_eq_ok h
    obtain ⟨rfl, -⟩ := outcome_pure_eq_ok h
    rw [Session.context_modifyContext, Context.ordinal_setOrdinal hs] at hplan
    exact .cons hplan (selectItems_form hgo (ordinal + 1) ps hv hrest)

/-! ## Tables -/

/-- The plan of a table by its name is its scan, titled if it has an alias. -/
theorem simpleTable_form {x : SimpleTable} {p : Plan}
    (h : (simpleTable x).outcome s = (.ok p, t)) :
    p = (Plan.scan x.qualifiedName x.span).titled x.aliasName x.span := by
  obtain ⟨_, _, -, h⟩ := outcome_bind_eq_ok h
  dsimp only at h
  cases halias : x.aliasName <;> rw [halias] at h
  · exact (outcome_pure_eq_ok h).1
  · exact (outcome_pure_eq_ok h).1

theorem joinSide_form (hgo : Reads go K) {side : Table} {span : Span} {p : Plan}
    (h : (joinSide go side span).outcome s = (.ok p, t)) : K.table side p := by
  obtain ⟨o, _, hx, h⟩ := outcome_bind_eq_ok h
  cases o with
  | none => cases h
  | some q =>
    obtain ⟨rfl, -⟩ := outcome_pure_eq_ok h
    exact hgo.table hx

/-- A join matches by its condition, by the columns both sides share, or not at all. -/
theorem joinCondition_form (hgo : Reads go K) {condition : Option Expr} {columns : List Column}
    {matched : JoinCondition}
    (h : (joinCondition go condition columns).outcome s = (.ok matched, t)) :
    JoinForm K condition columns matched := by
  cases condition with
  | some x =>
    obtain ⟨_, _, hx, h⟩ := outcome_bind_eq_ok h
    obtain ⟨p, rfl, hp⟩ := hgo.expr hx
    obtain ⟨rfl, -⟩ := outcome_pure_eq_ok h
    exact .condition hp
  | none =>
    cases columns with
    | nil =>
      obtain ⟨rfl, -⟩ := outcome_pure_eq_ok h
      exact .none
    | cons c cs =>
      obtain ⟨rfl, -⟩ := outcome_pure_eq_ok h
      exact .columns (List.cons_ne_nil c cs)

/-- The plan of a join joins the plans of its sides. -/
theorem joinTable_form (hgo : Reads go K) {left right : Table} {type : JoinType}
    {natural : Bool} {condition : Option Expr} {columns : List Column} {span : Span} {p : Plan}
    (h : (joinTable go left right type natural condition columns span).outcome s = (.ok p, t)) :
    TableForm K (.join left right type natural condition columns span) p := by
  unfold joinTable at h
  split at h
  · cases h
  · rename_i hdefect
    obtain ⟨p, _, hp, h⟩ := outcome_bind_eq_ok h
    obtain ⟨q, _, hq, h⟩ := outcome_bind_eq_ok h
    obtain ⟨matched, _, hmatched, h⟩ := outcome_bind_eq_ok h
    obtain ⟨rfl, -⟩ := outcome_pure_eq_ok h
    exact .join hdefect (joinSide_form hgo hp) (joinSide_form hgo hq)
      (joinCondition_form hgo hmatched)

/-- The plan of a derived table is that of its SELECT, or of its table if there is nothing else to
it. -/
theorem subqueryTable_form (hgo : Reads go K) {query : Subquery} {aliasName : Option String}
    {span : Span} {p : Plan}
    (h : (subqueryTable go query aliasName span).outcome s = (.ok (some p), t)) :
    TableForm K (.subquery query aliasName span) p := by
  obtain ⟨o, _, hsource, h⟩ := outcome_bind_eq_ok h
  cases o with
  | none => cases h
  | some source =>
    have hp : p = .aliased source aliasName span := by
      cases aliasName with
      | none => exact Option.some.inj (outcome_pure_eq_ok h).1
      | some name =>
        obtain ⟨_, _, -, h⟩ := outcome_bind_eq_ok h
        exact Option.some.inj (outcome_pure_eq_ok h).1
    subst hp
    unfold derivedSource at hsource
    split at hsource
    · rename_i hlist
      obtain ⟨p, ho, hp⟩ := hgo.select hsource
      obtain rfl := Option.some.inj ho
      exact .derived (by rw [hlist]; rfl) hp
    · rename_i hlist
      dsimp only at hsource
      split at hsource
      · rename_i table htable
        obtain ⟨o, _, hx, hsource⟩ := outcome_bind_eq_ok hsource
        cases o with
        | none =>
          obtain ⟨_, _, -, hsource⟩ := outcome_bind_eq_ok hsource
          cases hsource
        | some q =>
          obtain rfl := Option.some.inj (outcome_pure_eq_ok hsource).1
          exact .explicit hlist htable (hgo.table hx)
      · obtain ⟨_, _, hx, hsource⟩ := outcome_bind_eq_ok hsource
        obtain ⟨rfl, -⟩ := outcome_pure_eq_ok hx
        obtain ⟨_, _, -, hsource⟩ := outcome_bind_eq_ok hsource
        cases hsource

/-- Whatever rule gave the plan of a table, the plan has the form that the table calls for. -/
theorem tableRule_form (hgo : Reads go K) {rule : TableRule} {x : Table} {p : Plan}
    (h : (rule.apply go x).outcome s = (.ok (some p), t)) : TableForm K x p := by
  unfold TableRule.apply at h
  split at h
  · obtain ⟨q, hq, ho⟩ := outcome_map_eq_ok h
    obtain rfl := Option.some.inj ho
    obtain rfl := simpleTable_form hq
    exact .simple _
  · obtain ⟨q, hq, ho⟩ := outcome_map_eq_ok h
    obtain rfl := Option.some.inj ho
    exact joinTable_form hgo hq
  · exact subqueryTable_form hgo h
  · cases h

/-! ## Clauses -/

section Clauses

variable {α β : Type}

theorem required_eq_ok {clause : Clause} {span : Span} {m : ConvertM (Option α)} {a : α}
    (h : (required clause span m).outcome s = (.ok a, t)) : m.outcome s = (.ok (some a), t) := by
  obtain ⟨o, u, hm, h⟩ := outcome_bind_eq_ok h
  cases o with
  | none => cases h
  | some b =>
    obtain ⟨rfl, rfl⟩ := outcome_pure_eq_ok h
    exact hm

theorem whenPresent_rel {f : α → ConvertM β} {R : α → β → Prop} {x : Option α} {y : Option β}
    (hf : ∀ {a b t}, (f a).outcome s = (.ok b, t) → R a b)
    (h : (whenPresent f x).outcome s = (.ok y, t)) : Option.Rel R x y := by
  cases x with
  | none =>
    obtain ⟨rfl, -⟩ := outcome_pure_eq_ok h
    exact .none
  | some a =>
    obtain ⟨b, hb, rfl⟩ := outcome_map_eq_ok h
    exact .some (hf hb)

/-- If no part is absent, none is dropped. -/
theorem kept_forall₂ {f : α → ConvertM (Option Plan)} {R : α → Plan → Prop}
    (hf : ∀ {a s o t}, (f a).outcome s = (.ok o, t) → ∃ p, o = some p ∧ R a p) :
    ∀ (as : List α) {s t : Session} {ps : List Plan},
      (kept f as).outcome s = (.ok ps, t) → List.Forall₂ R as ps
  | [], _, _, _, h => by
    obtain ⟨rfl, -⟩ := outcome_pure_eq_ok h
    exact .nil
  | a :: as, _, _, _, h => by
    obtain ⟨_, _, ha, h⟩ := outcome_bind_eq_ok h
    obtain ⟨p, rfl, hp⟩ := hf ha
    obtain ⟨ps, _, hps, h⟩ := outcome_bind_eq_ok h
    obtain ⟨rfl, -⟩ := outcome_pure_eq_ok h
    exact .cons hp (kept_forall₂ hf as hps)

theorem eq_of_nonEmpty_eq_some {plans keys : List Plan} (h : nonEmpty plans = some keys) :
    keys = plans ∧ plans ≠ [] := by
  unfold nonEmpty at h
  split at h
  · cases h
  · rename_i hne
    exact ⟨(Option.some.inj h).symm, fun hnil => hne (List.isEmpty_iff.2 hnil)⟩

theorem forall₂_left_ne_nil {R : α → β → Prop} {as : List α} {bs : List β}
    (h : List.Forall₂ R as bs) (hne : bs ≠ []) : as ≠ [] := by
  rintro rfl
  exact hne (List.forall₂_nil_left_iff.1 h)

/-- The keys of a clause that must not be empty. -/
theorem keys_form {f : α → ConvertM (Option Plan)} {R : α → Plan → Prop} {as : List α}
    {keys : List Plan}
    (hf : ∀ {a s o t}, (f a).outcome s = (.ok o, t) → ∃ p, o = some p ∧ R a p)
    (h : (nonEmpty <$> kept f as).outcome s = (.ok (some keys), t)) :
    as ≠ [] ∧ List.Forall₂ R as keys := by
  obtain ⟨plans, hplans, hkeys⟩ := outcome_map_eq_ok h
  obtain ⟨rfl, hne⟩ := eq_of_nonEmpty_eq_some hkeys.symm
  have hrel := kept_forall₂ hf as hplans
  exact ⟨forall₂_left_ne_nil hrel hne, hrel⟩

end Clauses

/-- The key of an item is a column, an expression or a position. -/
theorem itemKey_form (hgo : Reads go K) {item : OrderItem} {o : Option Plan}
    (h : (itemKey go item).outcome s = (.ok o, t)) : ∃ p, o = some p ∧ KeyForm K item p := by
  cases item with
  | column c direction nulls span =>
    obtain ⟨p, hp, rfl⟩ := outcome_map_eq_ok h
    obtain rfl := column_eq_ok hp
    exact ⟨_, rfl, .column _ _ _ _⟩
  | expression x direction nulls span =>
    obtain ⟨p, rfl, hp⟩ := hgo.expr h
    exact ⟨p, rfl, .expression hp⟩
  | ordinal index direction nulls span =>
    simp only [itemKey] at h
    split at h
    · rename_i p hp
      exact ⟨p, (outcome_pure_eq_ok h).1, .ordinal hp⟩
    · cases h

/-- An item of ORDER BY is its key, wrapped in its direction and then in the place of nulls. -/
theorem orderItem_form (hgo : Reads go K) {item : OrderItem} {o : Option Plan}
    (h : (orderItem go item).outcome s = (.ok o, t)) : ∃ p, o = some p ∧ SortForm K item p := by
  obtain ⟨_, _, hkey, h⟩ := outcome_bind_eq_ok h
  obtain ⟨p, rfl, hp⟩ := itemKey_form hgo hkey
  obtain ⟨q, _, hq, h⟩ := outcome_bind_eq_ok h
  obtain ⟨r, _, hr, h⟩ := outcome_bind_eq_ok h
  obtain ⟨rfl, -⟩ := outcome_pure_eq_ok h
  have hdirected : q = p.inDirection item.direction item.span := by
    unfold directed at hq
    cases hd : item.direction <;> rw [hd] at hq
    · exact (outcome_pure_eq_ok hq).1
    · exact (call_eq_ok hq).1
  have hnulls : r = q.withNulls item.nulls := by
    unfold nullsPlaced at hr
    rcases hn : item.nulls with _ | _ | _ <;> rw [hn] at hr
    · exact (outcome_pure_eq_ok hr).1
    · exact (call_eq_ok hr).1
    · exact (call_eq_ok hr).1
  subst hnulls hdirected
  exact ⟨_, rfl, .key hp⟩

/-- A number of rows is a literal or a parameter. -/
theorem pageValue_form {value : PageValue} {p : Plan}
    (h : (pageValue value).outcome s = (.ok p, t)) : PageForm value p := by
  cases value with
  | number value span =>
    simp only [pageValue] at h
    split at h
    · rename_i q hq
      obtain ⟨rfl, -⟩ := outcome_pure_eq_ok h
      exact .number hq
    · cases h
  | parameter index span =>
    obtain ⟨rfl, -⟩ := outcome_pure_eq_ok h
    exact .parameter index span

theorem condition_form (hgo : Reads go K) {clause : Clause} {c : SqlAlgebra.Condition}
    {p : Plan} (h : (required clause c.span (condition go c)).outcome s = (.ok p, t)) :
    K.expr c.expr p := by
  obtain ⟨q, hq, hp⟩ := hgo.expr (required_eq_ok h)
  obtain rfl := Option.some.inj hq
  exact hp

/-- A select list that converts is not empty, and its first item is at position zero. -/
theorem selectList_form (hgo : Reads go K) {l : SelectList} {plans : List Plan}
    (hs : s.context.scopes ≠ []) (h : (selectList go l).outcome s = (.ok (some plans), t)) :
    l.items ≠ [] ∧ ItemsForm K 0 l.items plans := by
  obtain ⟨plans, hplans, hkeys⟩ := outcome_map_eq_ok h
  obtain ⟨rfl, hne⟩ := eq_of_nonEmpty_eq_some hkeys.symm
  have hitems := selectItems_form hgo 0 l.items hs hplans
  refine ⟨fun hnil => hne ?_, hitems⟩
  rw [hnil] at hitems
  cases hitems
  rfl

/-! ## SELECTs -/

/-- What succeeds in a scope of its own succeeds from the state in which the scope is open. -/
theorem inScope_eq_ok {α : Type} {m : ConvertM α} {a : α}
    (h : (inScope m).outcome s = (.ok a, t)) :
    m.outcome s.pushScope = (.ok a, (m.outcome s.pushScope).2) := by
  rw [outcome_inScope] at h
  exact Prod.ext (Prod.mk.inj h).1 rfl

/-- The source of a SELECT is its table, or one row if it has none. -/
theorem source_form (hgo : Reads go K) {source : Option Table} {p : Plan}
    (h : (Conversion.source go source).outcome s = (.ok p, t)) : SourceForm K source p := by
  cases source with
  | none =>
    obtain ⟨rfl, -⟩ := outcome_pure_eq_ok h
    exact .none
  | some table => exact .some (hgo.table (required_eq_ok h))

/-- The parts of a SELECT that converts are those of its clauses. The scope of the SELECT is still
open when its select list is converted, so the items have their positions. -/
theorem selectParts_form (hgo : Reads go K) {x : Select} {parts : SelectParts}
    (hs : s.context.scopes ≠ []) (h : (selectParts go x).outcome s = (.ok parts, t)) :
    PartsForm K x parts := by
  obtain ⟨relation, s₁, h₁, h⟩ := outcome_bind_eq_ok h
  obtain ⟨filter, s₂, h₂, h⟩ := outcome_bind_eq_ok h
  obtain ⟨groups, s₃, h₃, h⟩ := outcome_bind_eq_ok h
  obtain ⟨groupFilter, s₄, h₄, h⟩ := outcome_bind_eq_ok h
  obtain ⟨items, s₅, h₅, h⟩ := outcome_bind_eq_ok h
  obtain ⟨keys, s₆, h₆, h⟩ := outcome_bind_eq_ok h
  obtain ⟨skipped, s₇, h₇, h⟩ := outcome_bind_eq_ok h
  obtain ⟨fetched, s₈, h₈, h⟩ := outcome_bind_eq_ok h
  obtain ⟨right, s₉, h₉, h⟩ := outcome_bind_eq_ok h
  obtain ⟨rfl, -⟩ := outcome_pure_eq_ok h
  have k₁ := ((program_source x.source).keeps hgo.keeps).scopes_ne_nil h₁ hs
  have k₂ := ((program_conditionClause (e := .inner) .condition x.condition).keeps
    hgo.keeps).scopes_ne_nil h₂ k₁
  have k₃ := ((program_groupClause (e := .inner) x.groupBy).keeps hgo.keeps).scopes_ne_nil h₃ k₂
  have k₄ := ((program_conditionClause (e := .inner) .having x.having).keeps
    hgo.keeps).scopes_ne_nil h₄ k₃
  exact {
    source := source_form hgo h₁
    condition := whenPresent_rel (condition_form hgo) h₂
    groupBy := whenPresent_rel (fun h => keys_form (itemKey_form hgo) (required_eq_ok h)) h₃
    having := whenPresent_rel (condition_form hgo) h₄
    projections := whenPresent_rel (fun h => by
      obtain ⟨plans, hplans, rfl⟩ := outcome_map_eq_ok h
      obtain ⟨hne, hitems⟩ := selectList_form hgo k₄ (required_eq_ok hplans)
      exact ⟨hne, hitems, rfl⟩) h₅
    orderBy := ⟨keys, rfl,
      whenPresent_rel (fun h => keys_form (orderItem_form hgo) (required_eq_ok h)) h₆⟩
    offset := whenPresent_rel pageValue_form h₇
    fetch := whenPresent_rel pageValue_form h₈
    combined := whenPresent_rel (fun h => by
      obtain ⟨p, hp, rfl⟩ := outcome_map_eq_ok h
      obtain ⟨q, hq, hselect⟩ := hgo.select (required_eq_ok hp)
      obtain rfl := Option.some.inj hq
      exact ⟨rfl, hselect⟩) h₉ }

/-- The plan of a SELECT is composed of the plans of its clauses. -/
theorem select_form (hgo : Reads go K) {x : Select} {p : Plan}
    (h : (Conversion.select go x).outcome s = (.ok p, t)) : SelectForm K x p := by
  obtain ⟨parts, hparts, rfl⟩ := outcome_map_eq_ok (inScope_eq_ok h)
  exact .parts (selectParts_form hgo (List.cons_ne_nil _ _) hparts)

/-- Whatever rule gave the plan of an expression, the plan has the form that the expression calls
for. -/
theorem exprRule_form (hgo : Reads go K) {operators : OperatorTable} {rule : ExprRule}
    {x : Expr} {o : Option Plan} (h : (rule.apply operators go x).outcome s = (.ok o, t)) :
    ∃ p, o = some p ∧ ExprForm operators K x p := by
  unfold ExprRule.apply at h
  split at h
  · obtain ⟨p, hp, rfl⟩ := outcome_map_eq_ok h
    obtain rfl := column_eq_ok hp
    exact ⟨_, rfl, .column _⟩
  · exact ⟨_, (outcome_pure_eq_ok h).1, .literal _ _⟩
  · exact ⟨_, (outcome_pure_eq_ok h).1, .parameter _ _⟩
  · exact binary_form hgo h
  · exact negation_form hgo h
  · exact membership_form hgo h
  · exact between_form hgo h
  · exact list_form hgo h
  · exact function_form hgo h
  · obtain ⟨p, rfl, hp⟩ := aggregation_form hgo h
    exact ⟨p, rfl, .aggregation hp⟩
  · obtain ⟨p, rfl, hp⟩ := scalarSubquery_form hgo h
    exact ⟨_, rfl, .subquery hp⟩
  · exact existence_form hgo h
  · exact caseWhen_form hgo h
  · cases h

/-! ## Statements -/

theorem columns_eq_ok : ∀ (cs : List Column) {s t : Session} {plans : List Plan},
    (columns cs).outcome s = (.ok plans, t) → plans = columnPlans cs
  | [], _, _, _, h => (outcome_pure_eq_ok h).1
  | c :: cs, _, _, _, h => by
    obtain ⟨p, _, hp, h⟩ := outcome_bind_eq_ok h
    obtain ⟨ps, _, hps, h⟩ := outcome_bind_eq_ok h
    rw [(outcome_pure_eq_ok h).1, column_eq_ok hp, columns_eq_ok cs hps]
    rfl

/-- A SET list that converts has one column and one value for each assignment. -/
theorem assignments_form (hgo : Reads go K) :
    ∀ (as : List Assignment) {s t : Session} {o : Option (List Plan × List Plan)},
      (assignments go as).outcome s = (.ok o, t) →
        ∃ names values, o = some (names, values) ∧ AssignmentsForm K as names values
  | [], _, _, _, h => ⟨[], [], (outcome_pure_eq_ok h).1, .nil⟩
  | a :: as, _, _, _, h => by
    unfold assignments at h
    split at h
    · rename_i c hcolumns
      obtain ⟨name, _, hname, h⟩ := outcome_bind_eq_ok h
      obtain rfl := column_eq_ok hname
      obtain ⟨_, _, hx, h⟩ := outcome_bind_eq_ok h
      obtain ⟨value, rfl, hvalue⟩ := hgo.expr hx
      obtain ⟨_, _, hrest, h⟩ := outcome_bind_eq_ok h
      obtain ⟨names, values, rfl, has⟩ := assignments_form hgo as hrest
      exact ⟨_, _, (outcome_pure_eq_ok h).1, .cons hcolumns hvalue has⟩
    · cases h

/-- The rows of VALUES that convert all have the same length, and a plan for each of their
values. -/
theorem valuesRows_form (hgo : Reads go K) (width : Nat) :
    ∀ (rows : List ValuesRow) {s t : Session} {o : Option (List (List Plan))},
      (valuesRows go width rows).outcome s = (.ok o, t) →
        ∃ plans, o = some plans ∧ List.Forall₂ (fun (row : ValuesRow) values =>
          row.values.length = width ∧ List.Forall₂ K.expr row.values values) rows plans
  | [], _, _, _, h => ⟨[], (outcome_pure_eq_ok h).1, .nil⟩
  | row :: rows, _, _, _, h => by
    unfold valuesRows at h
    split at h
    · rename_i hwidth
      obtain ⟨_, _, hrow, h⟩ := outcome_bind_eq_ok h
      obtain ⟨values, rfl, hvalues⟩ := expressions_form hgo .insertStatement _ hrow
      obtain ⟨_, _, hrest, h⟩ := outcome_bind_eq_ok h
      obtain ⟨plans, rfl, hplans⟩ := valuesRows_form hgo width rows hrest
      exact ⟨_, (outcome_pure_eq_ok h).1, .cons ⟨hwidth, hvalues⟩ hplans⟩
    · cases h

/-- An INSERT takes its rows from a SET list, a query or VALUES. -/
theorem insertSource_form (hgo : Reads go K) {x : Insert} {o : Option (List Plan × Plan)}
    (h : (insertSource go x (columnPlans x.columns)).outcome s = (.ok o, t)) :
    ∃ names rows, o = some (names, rows) ∧ InsertForm K x names rows := by
  unfold insertSource at h
  split at h
  · rename_i set hset
    split at h
    · rename_i hlisted
      obtain ⟨_, _, has, h⟩ := outcome_bind_eq_ok h
      obtain ⟨names, values, rfl, hform⟩ := assignments_form hgo _ has
      exact ⟨_, _, (outcome_pure_eq_ok h).1,
        .set hset (List.map_eq_nil_iff.1 (List.isEmpty_iff.1 hlisted)) hform⟩
    · cases h
  · rename_i query hset hquery
    obtain ⟨p, _, hp, h⟩ := outcome_bind_eq_ok h
    obtain ⟨q, hq, hselect⟩ := hgo.select (required_eq_ok hp)
    obtain rfl := Option.some.inj hq
    exact ⟨_, _, (outcome_pure_eq_ok h).1, .query hset hquery hselect⟩
  · rename_i hset hquery
    obtain ⟨_, _, hrows, h⟩ := outcome_bind_eq_ok h
    obtain ⟨rows, rfl, hform⟩ := valuesRows_form hgo _ _ hrows
    exact ⟨_, _, (outcome_pure_eq_ok h).1, .rows hset hquery hform⟩

/-- The plan of an INSERT writes the rows of its source to its table. -/
theorem insert_form (hgo : Reads go K) {x : Insert} {o : Option Plan}
    (h : (Conversion.insert go x).outcome s = (.ok o, t)) :
    ∃ p, o = some p ∧ StatementForm K (.insert x) p := by
  unfold Conversion.insert at h
  split at h
  · rename_i hcount
    obtain ⟨_, _, -, h⟩ := outcome_bind_eq_ok (inScope_eq_ok h)
    obtain ⟨listed, _, hlisted, h⟩ := outcome_bind_eq_ok h
    obtain rfl := columns_eq_ok _ hlisted
    obtain ⟨_, _, hsource, h⟩ := outcome_bind_eq_ok h
    obtain ⟨names, rows, rfl, hform⟩ := insertSource_form hgo hsource
    exact ⟨_, (outcome_pure_eq_ok h).1, .insert hcount hform⟩
  · cases h

/-- A modification that converts has neither ORDER BY nor LIMIT. -/
theorem unordered_eq_ok {α : Type} {modification : Modification} {orderBy : Option OrderClause}
    {limit : Option Limit} {span : Span} {body : ConvertM α} {a : α}
    (h : (unordered modification orderBy limit span body).outcome s = (.ok a, t)) :
    orderBy = none ∧ limit = none ∧ body.outcome s = (.ok a, t) := by
  unfold unordered at h
  split at h
  · cases h
  · rename_i hnone
    simp only [Bool.or_eq_true, not_or, Option.not_isSome_iff_eq_none] at hnone
    exact ⟨hnone.1, hnone.2, h⟩

theorem targetCondition_form (hgo : Reads go K) {c : Option SqlAlgebra.Condition}
    {filter : Option Plan} (h : (targetCondition go c).outcome s = (.ok filter, t)) :
    Option.Rel (fun c p => K.expr c.expr p) c filter :=
  whenPresent_rel (condition_form hgo) h

/-- The plan of an UPDATE changes its target, under its condition. -/
theorem update_form (hgo : Reads go K) {x : Update} {o : Option Plan}
    (h : (update go x).outcome s = (.ok o, t)) :
    ∃ p, o = some p ∧ StatementForm K (.update x) p := by
  obtain ⟨horder, hlimit, h⟩ := unordered_eq_ok h
  obtain ⟨p, _, hp, h⟩ := outcome_bind_eq_ok (inScope_eq_ok h)
  obtain ⟨_, _, has, h⟩ := outcome_bind_eq_ok h
  obtain ⟨names, values, rfl, hset⟩ := assignments_form hgo _ has
  dsimp only at h
  split at h
  · cases h
  · rename_i hsome
    obtain ⟨filter, _, hfilter, h⟩ := outcome_bind_eq_ok h
    exact ⟨_, (outcome_pure_eq_ok h).1, .update horder hlimit (hgo.table (required_eq_ok hp))
      hset (fun hnil => hsome (List.isEmpty_iff.2 hnil)) (targetCondition_form hgo hfilter)⟩

/-- The plan of a DELETE deletes from its target, under its condition. -/
theorem delete_form (hgo : Reads go K) {x : Delete} {p : Plan}
    (h : (Conversion.delete go x).outcome s = (.ok p, t)) :
    StatementForm K (.delete x) p := by
  obtain ⟨horder, hlimit, h⟩ := unordered_eq_ok h
  obtain ⟨p, _, hp, h⟩ := outcome_bind_eq_ok (inScope_eq_ok h)
  obtain ⟨filter, _, hfilter, h⟩ := outcome_bind_eq_ok h
  obtain ⟨rfl, -⟩ := outcome_pure_eq_ok h
  exact .delete horder hlimit (hgo.table (required_eq_ok hp)) (targetCondition_form hgo hfilter)

/-- Whatever rule gave the plan of a statement, the plan has the form that the statement calls
for. -/
theorem statementRule_form (hgo : Reads go K) {rule : StatementRule} {x : Statement}
    {o : Option Plan} (h : (rule.apply go x).outcome s = (.ok o, t)) :
    ∃ p, o = some p ∧ StatementForm K x p := by
  unfold StatementRule.apply at h
  split at h
  · obtain ⟨p, hp, rfl⟩ := outcome_map_eq_ok h
    exact ⟨p, rfl, .select (select_form hgo hp)⟩
  · exact insert_form hgo h
  · exact update_form hgo h
  · obtain ⟨p, hp, rfl⟩ := outcome_map_eq_ok h
    exact ⟨p, rfl, delete_form hgo hp⟩
  · cases h

/-! ## Dispatch -/

/-- Whether a handler applies a rule or refuses. -/
def Handler.isDirect {ρ : Type} : Handler ρ → Bool
  | .rule _ | .unsupported => true
  | .absent | .redispatch => false

namespace DispatchTable

variable {ρ : Type}

/-- Every entry of a table is a rule. -/
def Ruled (table : DispatchTable ρ) : Prop :=
  ∀ kind handler, table.entry? kind = some handler → ∃ r, handler = .rule r

theorem ruled_ofRules (rules : List ρ) (kind : ρ → SegmentKind) : (ofRules rules kind).Ruled := by
  suffices h : ∀ table : DispatchTable ρ, table.Ruled →
      (rules.foldl (fun table rule => table.register (kind rule) (.rule rule)) table).Ruled by
    exact h empty fun _ _ h => by cases h
  induction rules with
  | nil => exact fun _ h => h
  | cons rule rules ih =>
    intro table htable
    refine ih _ fun k handler hk => ?_
    simp only [register] at hk
    split at hk
    · exact ⟨rule, (Option.some.inj hk).symm⟩
    · exact htable k handler hk

/-- In a table of rules, every kind has a rule or is refused. -/
theorem Ruled.isDirect_handler {table : DispatchTable ρ} (h : table.Ruled) (kind : SegmentKind) :
    (table.handler kind).isDirect := by
  unfold handler
  cases hk : table.entry? kind with
  | none => rfl
  | some handler =>
    obtain ⟨r, rfl⟩ := h kind handler hk
    rfl

end DispatchTable

/-- A table made of rules has no other entries. -/
theorem isDirect_handler_ofRules {ρ : Type} (rules : List ρ) (kind : ρ → SegmentKind)
    (k : SegmentKind) : ((DispatchTable.ofRules rules kind).handler k).isDirect :=
  (DispatchTable.ruled_ofRules rules kind).isDirect_handler k

/-- A value that comes out of a table of rules comes out of one of the rules. -/
theorem handled_eq_ok {ρ : Type} {handler : Handler ρ} {rule : ρ → ConvertM (Option Plan)}
    {x : Segment} {o : Option Plan} (hdirect : handler.isDirect)
    (h : (handled handler rule go x).outcome s = (.ok o, t)) :
    ∃ r, (rule r).outcome s = (.ok o, t) := by
  cases handler with
  | rule r => exact ⟨r, h⟩
  | absent => cases hdirect
  | redispatch => cases hdirect
  | unsupported =>
    have hrefuse := result_refuse x s
    rw [show (refuse x).outcome s = (.ok o, t) from h] at hrefuse
    cases hrefuse

/-- Every form hands `K` on from the parts to the whole. -/
structure PartSpec.Closed (K : PartSpec) (settings : CompilerSettings)
    (operators : OperatorTable) : Prop where
  expr : ∀ {x p}, ExprForm operators K x p → K.expr x p
  table : ∀ {x p}, TableForm K x p → K.table x p
  select : ∀ {x p}, SelectForm K x p → K.select x p
  item : ∀ {ordinal x p}, ItemForm settings K ordinal x p → K.item ordinal x p

namespace Compiler

/-- The compiler with every rule at its kind. -/
def standard (settings : CompilerSettings) (operators : OperatorTable) : Compiler :=
  ⟨settings, { Registry.standard with operators := operators }⟩

/-- A value comes out of the conversion of the segment that was entered. -/
theorem convertWithin_eq_ok {c : Compiler} {levels : Nat} {x : Segment} {o : Option Plan}
    (h : (c.convertWithin (levels + 1) x).outcome s = (.ok o, t)) :
    ∃ u v, (c.convertEntered (c.convertWithin levels) x).outcome u = (.ok o, v) ∧
      u.context = s.context.enter x.kind := by
  rw [outcome_convertWithin_succ] at h
  exact ⟨s.inside x, _, Prod.ext (Prod.mk.inj h).1 rfl, rfl⟩

variable {settings : CompilerSettings} {operators : OperatorTable}

/-- What every form hands on holds of all that is converted. -/
theorem reads_convertWithin (hK : K.Closed settings operators) :
    ∀ levels : Nat, Reads ((standard settings operators).convertWithin levels) K
  | 0 => {
      keeps := keeps_convertWithin _ 0
      expr := fun h => by cases h
      select := fun h => by cases h
      table := fun h => by cases h
      item := fun h => by cases h }
  | levels + 1 => by
    have hgo := reads_convertWithin hK levels
    exact {
      keeps := keeps_convertWithin _ (levels + 1)
      expr := fun h => by
        obtain ⟨_, _, h, -⟩ := convertWithin_eq_ok h
        obtain ⟨_, h⟩ := handled_eq_ok (isDirect_handler_ofRules _ _ _) h
        obtain ⟨p, ho, hp⟩ := exprRule_form hgo h
        exact ⟨p, ho, hK.expr hp⟩
      select := fun h => by
        obtain ⟨_, _, h, -⟩ := convertWithin_eq_ok h
        obtain ⟨p, hp, ho⟩ := outcome_map_eq_ok h
        exact ⟨p, ho, hK.select (select_form hgo hp)⟩
      table := fun h => by
        obtain ⟨_, _, h, -⟩ := convertWithin_eq_ok h
        obtain ⟨_, h⟩ := handled_eq_ok (isDirect_handler_ofRules _ _ _) h
        exact hK.table (tableRule_form hgo h)
      item := fun h => by
        obtain ⟨_, _, h, hcontext⟩ := convertWithin_eq_ok h
        obtain ⟨_, h⟩ := handled_eq_ok (isDirect_handler_ofRules _ _ _) h
        obtain ⟨p, ho, hp⟩ := projectionRule_form hgo h
        rw [hcontext] at hp
        exact ⟨p, ho, hK.item hp⟩ }

/-- The plan of a statement has the form of the statement, over parts that have what every
form hands on. No statement converts to nothing. -/
theorem tryConvert_form (hK : K.Closed settings operators) {st : Statement} {o : Option Plan}
    (h : (standard settings operators).tryConvert st = .ok o) :
    ∃ p, o = some p ∧ StatementForm K st p := by
  have hrun : ((standard settings operators).convertWithin settings.maxDepth.toNat
      (.statement st)).outcome {} = (.ok o, _) := Prod.ext h rfl
  cases hlevels : settings.maxDepth.toNat with
  | zero =>
    rw [hlevels] at hrun
    cases hrun
  | succ levels =>
    rw [hlevels] at hrun
    obtain ⟨_, _, h, -⟩ := convertWithin_eq_ok hrun
    obtain ⟨_, h⟩ := handled_eq_ok (isDirect_handler_ofRules _ _ _) h
    exact statementRule_form (reads_convertWithin hK levels) h

end Compiler

end SqlAlgebra
