import SqlAlgebra.Proofs.Resolution
import SqlAlgebra.Proofs.Run
import SqlAlgebra.Proofs.WellFormed

/-!
# What the standard compiler accepts

The standard compiler turns a statement into a plan exactly if the statement is well-formed and
the nesting limit is at least its height. Both directions come from one judgement: a
conversion that `Judges` some checks and parts ends with a value only if the checks pass and
the parts are well-formed and low enough, and if it fails although all is well-formed, it
fails for want of levels. The judgement of a sequence is that of its steps taken together
(`judges_bind`), so each rule is judged by its `sound` and `visits`, and the induction on the
levels is left with one step (`Compiler.judges_convertWithin`).
-/

namespace SqlAlgebra

open Conversion ConvertM

variable {α β : Type}

/-- What the result of a conversion says that makes the checks `checks` and converts `parts`
with `n` levels left, where the limit is `limit` and values satisfy `Q`. -/
def Verdict (limit : UInt64) (n : Nat) (checks : Prop) (parts : List Segment) (Q : α → Prop) :
    Except ConvertError α → Prop
  | .ok a => checks ∧ (∀ p ∈ parts, p.wellFormed ∧ p.height ≤ n) ∧ Q a
  | .error e => checks → (∀ p ∈ parts, p.wellFormed) →
    e = .maxRecursion limit ∧ ∃ p ∈ parts, n < p.height

/-- A conversion that makes the checks `checks` and converts `parts`. -/
structure Judges (limit : UInt64) (n : Nat) (m : ConvertM α) (checks : Prop)
    (parts : List Segment) (Q : α → Prop) : Prop where
  ends : Ends m (Verdict limit n checks parts Q)

section Rules

variable {limit : UInt64} {n : Nat} {m : ConvertM α} {c c₁ c₂ : Prop}
  {ps ps₁ ps₂ : List Segment} {P Q : α → Prop}

theorem judges_of_result {a : α} (hm : ∀ s, (m.outcome s).1 = .ok a) (ha : Q a) :
    Judges limit n m True [] Q := by
  refine ⟨fun s => ?_⟩
  rw [hm s]
  exact ⟨trivial, List.forall_mem_nil _, ha⟩

theorem judges_pure {a : α} (ha : Q a) : Judges limit n (pure a) True [] Q :=
  judges_of_result (fun _ => rfl) ha

theorem judges_throw {e : ConvertError} (hc : ¬c) :
    Judges limit n (throw e : ConvertM α) c ps Q :=
  ⟨fun _ h => absurd h hc⟩

/-- What is known of the values may be weakened. -/
theorem Judges.mono (h : Judges limit n m c ps P) (hPQ : ∀ a, P a → Q a) :
    Judges limit n m c ps Q :=
  ⟨h.ends.mono fun
    | .ok a, ⟨hc, hps, ha⟩ => ⟨hc, hps, hPQ a ha⟩
    | .error _, he => he⟩

theorem Judges.congr (h : Judges limit n m c₁ ps₁ Q) (hc : c₂ ↔ c₁) (hps : ps₂ = ps₁) :
    Judges limit n m c₂ ps₂ Q := by
  subst hps
  rwa [propext hc]

theorem Judges.always (h : Judges limit n m True ps Q) : Judges limit n m (true = true) ps Q :=
  h.congr (iff_true_intro rfl) rfl

/-- A sequence makes the checks of both its steps and converts the parts of both. -/
theorem judges_bind {f : α → ConvertM β} {R : β → Prop} (hm : Judges limit n m c₁ ps₁ Q)
    (hf : ∀ a, Q a → Judges limit n (f a) c₂ ps₂ R) :
    Judges limit n (m >>= f) (c₁ ∧ c₂) (ps₁ ++ ps₂) R := by
  refine ⟨hm.ends.bind (fun a ⟨hc₁, hps₁, ha⟩ => (hf a ha).ends.mono ?_) fun e he hc hps => ?_⟩
  · rintro (e | b) hb
    · intro hc hps
      obtain ⟨he, p, hp, hn⟩ := hb hc.2 fun p hp => hps p (List.mem_append_right _ hp)
      exact ⟨he, p, List.mem_append_right _ hp, hn⟩
    · obtain ⟨hc₂, hps₂, hb⟩ := hb
      exact ⟨⟨hc₁, hc₂⟩, List.forall_mem_append.2 ⟨hps₁, hps₂⟩, hb⟩
  · obtain ⟨he, p, hp, hn⟩ := he hc.1 fun p hp => hps p (List.mem_append_left _ hp)
    exact ⟨he, p, List.mem_append_left _ hp, hn⟩

/-- A first step that neither checks nor converts. -/
theorem judges_then {f : α → ConvertM β} {R : β → Prop} (hm : Judges limit n m True [] Q)
    (hf : ∀ a, Judges limit n (f a) c ps R) : Judges limit n (m >>= f) c ps R :=
  (judges_bind hm fun a _ => hf a).congr (true_and _).symm.to_iff (List.nil_append _).symm

/-- A step that does no more than change the state. -/
theorem judges_step {m : ConvertM Unit} {f : Unit → ConvertM β} {R : β → Prop}
    (hm : ∀ s, (m.outcome s).1 = .ok ()) (hf : Judges limit n (f ()) c ps R) :
    Judges limit n (m >>= f) c ps R :=
  judges_then (judges_of_result (Q := fun _ => True) hm trivial) fun _ => hf

/-- A last step that neither checks nor converts. -/
theorem judges_last {f : α → ConvertM β} {R : β → Prop} (hm : Judges limit n m c ps Q)
    (hf : ∀ a, Q a → Judges limit n (f a) True [] R) : Judges limit n (m >>= f) c ps R :=
  (judges_bind hm hf).congr (and_true _).symm.to_iff (List.append_nil _).symm

theorem judges_map {f : α → β} {R : β → Prop} (hm : Judges limit n m c ps Q)
    (hf : ∀ a, Q a → R (f a)) : Judges limit n (f <$> m) c ps R := by
  rw [map_eq_pure_bind]
  exact judges_last hm fun a ha => judges_pure (hf a ha)

/-- A first step that converts some parts. -/
theorem judges_parts {f : α → ConvertM β} {R : β → Prop} (hm : Judges limit n m True ps₁ Q)
    (hf : ∀ a, Q a → Judges limit n (f a) c ps₂ R) :
    Judges limit n (m >>= f) c (ps₁ ++ ps₂) R :=
  (judges_bind hm hf).congr (true_and _).symm.to_iff rfl

/-- A part that does not convert to nothing, and what follows it. -/
theorem judges_part {x : Segment} {m : ConvertM (Option α)} {f : Option α → ConvertM β}
    {R : β → Prop} (hm : Judges limit n m True [x] fun o => o.isSome)
    (hf : ∀ a, Judges limit n (f (some a)) c ps R) :
    Judges limit n (m >>= f) c (x :: ps) R := by
  refine judges_parts hm fun o ho => ?_
  cases o with
  | none => cases ho
  | some a => exact hf a

/-- A value that must be there. -/
theorem judges_present {m : ConvertM (Option α)} {f : Option α → ConvertM α} {e : ConvertError}
    (hm : Judges limit n m c₁ ps fun o => (o.isSome ↔ c₂)) (hnone : f none = throw e)
    (hsome : ∀ a, f (some a) = pure a) :
    Judges limit n (m >>= f) (c₁ ∧ c₂) ps fun _ => True := by
  refine (judges_bind hm fun o ho => ?_).congr Iff.rfl (List.append_nil _).symm
  cases o with
  | none =>
    rw [hnone]
    exact judges_throw fun h => Bool.false_ne_true (ho.2 h)
  | some a =>
    rw [hsome]
    exact (judges_pure trivial).congr (iff_true_intro (ho.1 rfl)) rfl

theorem judges_inScope (hm : Judges limit n m c ps Q) : Judges limit n (inScope m) c ps Q :=
  ⟨hm.ends.inScope⟩

end Rules

/-- The descent converts every segment with `n` levels left, and gives nothing for a hollow
table only. -/
def JudgesAll (limit : UInt64) (n : Nat) (go : Descent) : Prop :=
  ∀ x, Judges limit n (go x) True [x] fun o => o.isSome = !x.hollow

variable {limit : UInt64} {n : Nat} {go : Descent}

/-! ## Expressions -/

theorem judges_column (c : Column) : Judges limit n (column c) True [] fun _ => True :=
  judges_of_result (result_column c) trivial

/-- A call succeeds if its operator accepts the number of operands. -/
theorem judges_call {op : Operator} (operands : List Plan) {distinct : Bool} {span : Span}
    (ha : op.arity.accepts operands.length) :
    Judges limit n (do return some (← call op operands distinct span)) True []
      fun o => o.isSome := by
  refine judges_of_result (a := some (.call op operands distinct span)) (fun s => ?_) rfl
  unfold call Plan.apply
  rw [if_pos ha]
  rfl

/-- The only part of a nested expression is the expression itself, which always has a plan. -/
theorem judges_expr (hgo : JudgesAll limit n go) (x : Expr) :
    Judges limit n (go (.expression x)) True [.expression x] fun o => o.isSome :=
  hgo (.expression x)

theorem judges_nested (hgo : JudgesAll limit n go) (q : Select) :
    Judges limit n (go (.select q)) True [.select q] fun o => o.isSome :=
  hgo (.select q)

/-- A list of expressions converts each of them, and no plan is missing. -/
theorem judges_expressions (hgo : JudgesAll limit n go) (owner : SegmentKind) :
    ∀ xs : List Expr, Judges limit n (expressions go owner xs) True (xs.map .expression)
      fun o => ∃ ps, o = some ps ∧ ps.length = xs.length
  | [] => judges_pure ⟨[], rfl, rfl⟩
  | x :: xs => by
    refine judges_part (judges_expr hgo x) fun p => ?_
    refine judges_last (judges_expressions hgo owner xs) ?_
    rintro _ ⟨ps, rfl, hlength⟩
    exact judges_pure ⟨p :: ps, rfl, congrArg Nat.succ hlength⟩

/-- A call on the values of some expressions. -/
theorem judges_apply (hgo : JudgesAll limit n go) {owner : SegmentKind} {xs : List Expr}
    {op : Operator} {distinct : Bool} {span : Span}
    {f : Option (List Plan) → ConvertM (Option Plan)}
    (hf : ∀ ps, f (some ps) = do return some (← call op ps distinct span))
    (ha : op.arity.accepts xs.length) :
    Judges limit n (expressions go owner xs >>= f) True (xs.map .expression)
      fun o => o.isSome := by
  refine judges_last (judges_expressions hgo owner xs) ?_
  rintro _ ⟨ps, rfl, hlength⟩
  rw [hf]
  exact judges_call ps (by rwa [hlength])

/-- IS tests for a literal exactly where one can be tested for. -/
theorem isSome_literalTest? (negated : Bool) (x : Expr) :
    (literalTest? negated x).isSome = x.isTestLiteral := by
  cases x with
  | literal value span =>
    cases value with
    | boolean b => cases b <;> rfl
    | _ => rfl
  | _ => rfl

/-- The operators of IS take one operand. -/
theorem accepts_of_literalTest? {negated : Bool} {x : Expr} {op : CoreOperator}
    (h : literalTest? negated x = some op) : (Operator.core op).arity.accepts 1 :=
  of_literalTest? (P := fun op => (Operator.core op).arity.accepts 1) (by decide) h

/-- The standard binary operators take two operands. -/
theorem accepts_of_resolveBinary? {text : String} {op : Operator}
    (h : OperatorTable.standard.resolveBinary? text = some op) : op.arity.accepts 2 :=
  OperatorTable.of_resolveBinary?_standard (P := fun op => op.arity.accepts 2) (by decide) h

/-- A binary operation is sound if its text stands for an operator or, after IS, its right side is a
literal to test for. -/
theorem judges_binary (hgo : JudgesAll limit n go) (left : Expr) (operator : String)
    (right : Expr) (span : Span) :
    Judges limit n (binary .standard go left operator right span)
      (Expr.binary left operator right span).sound (Expr.binary left operator right span).visits
      fun o => o.isSome := by
  rw [binary, OperatorTable.resolveBinary?_collapsed]
  simp only [Expr.sound, Expr.visits]
  cases testNegated? operator with
  | some negated =>
    simp only [← isSome_literalTest? negated right]
    cases hright : literalTest? negated right with
    | none => exact judges_throw Bool.false_ne_true
    | some op =>
      have ha := accepts_of_literalTest? hright
      exact (judges_part (judges_expr hgo left) fun p => judges_call [p] ha).congr
        (by simp) rfl
  | none =>
    dsimp only
    cases hoperator : OperatorTable.standard.resolveBinary? operator with
    | none => exact judges_throw Bool.false_ne_true
    | some op =>
      have ha := accepts_of_resolveBinary? hoperator
      exact (judges_part (judges_expr hgo left) fun p => judges_part (judges_expr hgo right)
        fun q => judges_call [p, q] ha).congr (by simp) rfl

theorem judges_negation (hgo : JudgesAll limit n go) (operand : Expr) (span : Span) :
    Judges limit n (negation go operand span) True [.expression operand] fun o => o.isSome :=
  judges_part (judges_expr hgo operand) fun p => judges_call [p] rfl

theorem judges_membership (hgo : JudgesAll limit n go) (left right : Expr) (negated : Bool)
    (span : Span) :
    Judges limit n (membership go left right negated span) True
      (Expr.membership left right negated span).visits fun o => o.isSome := by
  have ha : ∀ p q : Plan,
      (Operator.core (membershipOperator negated)).arity.accepts [p, q].length := by
    cases negated <;> exact fun _ _ => rfl
  cases right with
  | subquery query =>
    exact judges_part (judges_expr hgo left) fun p =>
      judges_part (judges_nested hgo query.select) fun q => judges_call [p, q] (ha p q)
  | _ =>
    exact judges_part (judges_expr hgo left) fun p =>
      judges_part (judges_expr hgo _) fun q => judges_call [p, q] (ha p q)

theorem judges_between (hgo : JudgesAll limit n go) (operand low high : Expr) (negated : Bool)
    (span : Span) :
    Judges limit n (between go operand low high negated span) True
      [.expression operand, .expression low, .expression high] fun o => o.isSome :=
  judges_apply hgo (fun _ => rfl) (by cases negated <;> rfl)

theorem judges_list (hgo : JudgesAll limit n go) (items : List Expr) (span : Span) :
    Judges limit n (list go items span) True (items.map .expression) fun o => o.isSome := by
  refine judges_last (judges_expressions hgo .list items) ?_
  rintro _ ⟨ps, rfl, -⟩
  exact judges_pure rfl

/-- Arguments are in order if the operator accepts their number. -/
theorem judges_arguments (hgo : JudgesAll limit n go) (op : Operator) (arguments : List Expr)
    (span : Span) :
    Judges limit n (do
      if op.arity.accepts arguments.length then
        let some operands ← expressions go .function arguments | return none
        return some (← call op operands false span)
      else
        throw (.malformedSegment .function (.argumentCount op arguments.length) span))
      (op.arity.accepts arguments.length) (arguments.map .expression) fun o => o.isSome := by
  split
  · rename_i ha
    exact (judges_apply hgo (fun _ => rfl) ha).congr (iff_true_intro ha) rfl
  · rename_i ha
    exact judges_throw ha

/-- A function call is sound if its operator accepts the number of arguments. -/
theorem judges_function (hgo : JudgesAll limit n go) (name : String) (arguments : List Expr)
    (span : Span) :
    Judges limit n (function .standard go name arguments span)
      (Expr.function name arguments span).sound (Expr.function name arguments span).visits
      fun o => o.isSome := by
  simp only [function, Expr.sound]
  generalize OperatorTable.standard.resolveFunction name = op
  split
  · exact judges_step (fun _ => rfl) (judges_arguments hgo _ arguments span)
  · exact judges_arguments hgo _ arguments span

/-- An aggregate call is sound if it has arguments its operator accepts, or counts rows. -/
theorem judges_aggregation (hgo : JudgesAll limit n go) (a : Aggregation) :
    Judges limit n (aggregation go a) a.sound (a.arguments.map .expression)
      fun o => o.isSome := by
  obtain ⟨function, distinct, arguments, span⟩ := a
  unfold aggregation aggregateOperands Aggregation.sound
  cases arguments with
  | nil =>
    cases function with
    | count => exact Judges.congr (judges_of_result (fun _ => rfl) rfl) (by simp) rfl
    | _ => exact judges_throw Bool.false_ne_true
  | cons x xs =>
    simp only [List.isEmpty_cons, Bool.false_eq_true, if_false]
    split
    · rename_i ha
      have hop : (Operator.core (aggregateOperator function)).arity.accepts (x :: xs).length := ha
      exact (judges_apply hgo (fun _ => rfl) hop).congr (iff_true_intro ha) rfl
    · rename_i ha
      exact judges_throw ha

theorem judges_scalarSubquery (hgo : JudgesAll limit n go) (query : Subquery) :
    Judges limit n (scalarSubquery go query) True [.select query.select] fun o => o.isSome :=
  judges_part (judges_nested hgo query.select) fun p => judges_call [p] rfl

theorem judges_existence (hgo : JudgesAll limit n go) (query : Subquery) (negated : Bool)
    (span : Span) :
    Judges limit n (existence go query negated span) True [.select query.select]
      fun o => o.isSome := by
  refine judges_part (judges_nested hgo query.select) fun p => ?_
  cases negated <;> exact judges_of_result (fun _ => rfl) rfl

theorem judges_branches (hgo : JudgesAll limit n go) :
    ∀ whens thens : List Expr, Judges limit n (branches go whens thens) True
      ((interleaved whens thens).map .expression)
      fun o => ∃ ps, o = some ps ∧ ps.length = (interleaved whens thens).length
  | [], _ => judges_pure ⟨[], rfl, rfl⟩
  | _ :: _, [] => judges_pure ⟨[], rfl, rfl⟩
  | w :: ws, t :: ts => by
    refine judges_part (judges_expr hgo w) fun p => judges_part (judges_expr hgo t) fun q => ?_
    refine judges_last (judges_branches hgo ws ts) ?_
    rintro _ ⟨ps, rfl, hlength⟩
    exact judges_pure ⟨p :: q :: ps, rfl, congrArg (· + 2) hlength⟩

theorem judges_caseOperand (hgo : JudgesAll limit n go) :
    ∀ operand : Option Expr, Judges limit n (caseOperand go operand) True
      (operand.toList.map .expression)
      fun o => ∃ ps, o = some ps ∧ ps.length = operand.toList.length
  | none => judges_pure ⟨[], rfl, rfl⟩
  | some x => judges_part (judges_expr hgo x) fun p => judges_pure ⟨[p], rfl, rfl⟩

theorem judges_caseOtherwise (hgo : JudgesAll limit n go) :
    ∀ otherwise : Option Expr, Judges limit n (caseOtherwise go otherwise) True
      (otherwise.toList.map .expression) fun o => o.isSome
  | none => judges_pure rfl
  | some x => judges_expr hgo x

/-- There is a WHEN, so a searched CASE has three operands at least and a simple one four. -/
theorem accepts_caseOperator {operand : Option Expr} {whens thens : List Expr}
    {lead middle : List Plan} (hsome : whens ≠ []) (hlength : whens.length = thens.length)
    (hlead : lead.length = operand.toList.length)
    (hmiddle : middle.length = (interleaved whens thens).length) (last : Plan) :
    (Operator.core (caseOperator operand)).arity.accepts
      (lead ++ middle ++ [last]).length := by
  have hwhens : 0 < whens.length := List.length_pos_iff.2 hsome
  rw [length_interleaved hlength] at hmiddle
  cases operand with
  | none =>
    simp [Operator.arity, caseOperator, CoreOperator.arity, Arity.accepts]
    omega
  | some x =>
    simp [Operator.arity, caseOperator, CoreOperator.arity, Arity.accepts] at hlead ⊢
    omega

/-- A CASE is sound if it has as many results as conditions. -/
theorem judges_caseWhen (hgo : JudgesAll limit n go) (operand : Option Expr)
    (whens thens : List Expr) (otherwise : Option Expr) (span : Span) :
    Judges limit n (caseWhen go operand whens thens otherwise span)
      (Expr.caseWhen operand whens thens otherwise span).sound
      (Expr.caseWhen operand whens thens otherwise span).visits fun o => o.isSome := by
  unfold caseWhen
  split
  · rename_i hcount
    refine judges_throw fun hsound => ?_
    simp [Expr.sound] at hsound hcount
    rcases hcount with hcount | hcount
    · exact hsound.1 hcount
    · exact hcount hsound.2
  · rename_i hcount
    simp only [Bool.or_eq_true, List.isEmpty_iff, bne_iff_ne, not_or, not_not] at hcount
    have hvisits : (Expr.caseWhen operand whens thens otherwise span).visits =
        operand.toList.map .expression ++ ((interleaved whens thens).map .expression ++
          otherwise.toList.map .expression) := by
      simp [Expr.visits]
    rw [hvisits]
    suffices h : Judges limit n _ True _ _ from h.congr (by simp [Expr.sound, hcount]) rfl
    refine judges_parts (judges_caseOperand hgo operand) ?_
    rintro _ ⟨lead, rfl, hlead⟩
    refine judges_parts (judges_branches hgo whens thens) ?_
    rintro _ ⟨middle, rfl, hmiddle⟩
    refine judges_last (judges_caseOtherwise hgo otherwise) fun o ho => ?_
    obtain ⟨last, rfl⟩ := Option.isSome_iff_exists.1 ho
    exact judges_call _ (accepts_caseOperator hcount.1 hcount.2 hlead hmiddle last)

theorem judges_refuse (s : Segment) {c : Prop} {ps : List Segment} {Q : Option Plan → Prop}
    (hc : ¬c) : Judges limit n (refuse s) c ps Q :=
  ⟨fun _ h => absurd h hc⟩

theorem convertEntered_expression (settings : CompilerSettings) {x : Expr} {rule : ExprRule}
    (h : Registry.standard.expressions.handler x.kind = .rule rule) :
    (⟨settings, .standard⟩ : Compiler).convertEntered go (.expression x) =
      rule.apply .standard go x := by
  simp only [Compiler.convertEntered, h]
  rfl

/-- The standard compiler accepts an expression that is sound, once it has been entered. -/
theorem judges_expression (hgo : JudgesAll limit n go) (settings : CompilerSettings) (x : Expr) :
    Judges limit n ((⟨settings, .standard⟩ : Compiler).convertEntered go (.expression x))
      x.sound x.visits fun o => o.isSome := by
  cases x with
  | column c => exact Judges.always (judges_map (judges_column c) fun _ _ => rfl)
  | literal value span => exact Judges.always (judges_pure rfl)
  | parameter index span => exact Judges.always (judges_pure rfl)
  | binary left operator right span =>
    rw [convertEntered_expression settings (x := .binary left operator right span) rfl,
      ExprRule.apply]
    exact judges_binary hgo left operator right span
  | negation operand span => exact (judges_negation hgo operand span).always
  | membership left right negated span =>
    exact (judges_membership hgo left right negated span).always
  | between operand low high negated span =>
    exact (judges_between hgo operand low high negated span).always
  | list items span => exact (judges_list hgo items span).always
  | function name arguments span =>
    rw [convertEntered_expression settings (x := .function name arguments span) rfl,
      ExprRule.apply]
    exact judges_function hgo name arguments span
  | aggregation a => exact judges_aggregation hgo a
  | subquery query => exact (judges_scalarSubquery hgo query).always
  | existence query negated span => exact (judges_existence hgo query negated span).always
  | caseWhen operand whens thens otherwise span =>
    exact judges_caseWhen hgo operand whens thens otherwise span
  | common text span => exact judges_refuse _ Bool.false_ne_true

/-! ## Select-list items -/

theorem judges_named {settings : CompilerSettings} {kind : SegmentKind}
    {aliasName : Option String} {span : Span} {m : ConvertM (Option Plan)} {c : Prop}
    {ps : List Segment} {f : Option Plan → ConvertM (Option Plan)}
    (hf : ∀ p, f (some p) = do return some (← named settings kind aliasName span p))
    (hm : Judges limit n m c ps fun o => o.isSome) :
    Judges limit n (m >>= f) c ps fun o => o.isSome := by
  refine judges_last hm fun o ho => ?_
  obtain ⟨p, rfl⟩ := Option.isSome_iff_exists.1 ho
  rw [hf]
  refine judges_then (Q := fun _ => True) ⟨fun s => ?_⟩ fun _ => judges_pure rfl
  rw [result_named]
  exact ⟨trivial, List.forall_mem_nil _, trivial⟩

/-- The standard compiler accepts an item that is sound, once it has been entered. -/
theorem judges_projection (hgo : JudgesAll limit n go) (settings : CompilerSettings)
    (x : Projection) :
    Judges limit n ((⟨settings, .standard⟩ : Compiler).convertEntered go (.projection x))
      x.sound x.visits fun o => o.isSome := by
  cases x with
  | column c aliasName span =>
    refine Judges.always (judges_map (Q := fun _ => True) (judges_then (judges_column c)
      fun p => ?_) fun _ _ => rfl)
    cases aliasName <;> exact judges_pure trivial
  | expression x aliasName span =>
    exact Judges.always (judges_named (fun _ => rfl) (judges_expr hgo x))
  | aggregation a aliasName span =>
    exact judges_named (fun _ => rfl) (judges_aggregation hgo a)
  | shorthand owner span => exact Judges.always (judges_pure rfl)
  | subquery query aliasName span =>
    exact Judges.always (judges_named (fun _ => rfl) (judges_scalarSubquery hgo query))

/-! ## Tables -/

theorem judges_simpleTable (t : SimpleTable) :
    Judges limit n (simpleTable t) True [] fun _ => True := by
  refine judges_step (fun _ => rfl) ?_
  dsimp only
  split
  · exact judges_pure trivial
  · exact judges_pure trivial

/-- A table that must not be hollow. -/
theorem judges_filled (hgo : JudgesAll limit n go) (t : Table)
    {f : Option Plan → ConvertM Plan} {e : ConvertError} (hnone : f none = throw e)
    (hsome : ∀ p, f (some p) = pure p) :
    Judges limit n (go (.table t) >>= f) (t.hollow = false) [.table t] fun _ => True := by
  have htable : Judges limit n (go (.table t)) True [.table t]
      fun o => (o.isSome ↔ t.hollow = false) := by
    refine (hgo (.table t)).mono fun o ho => ?_
    rw [ho, Segment.hollow, Bool.not_eq_true']
  exact (judges_present htable hnone hsome).congr (true_and _).symm.to_iff rfl

theorem judges_joinCondition (hgo : JudgesAll limit n go) (condition : Option Expr)
    (columns : List Column) :
    Judges limit n (joinCondition go condition columns) True
      (condition.toList.map .expression) fun _ => True := by
  cases condition with
  | some x => exact judges_part (judges_expr hgo x) fun p => judges_pure trivial
  | none =>
    unfold joinCondition
    dsimp only
    split
    · exact judges_pure trivial
    · exact judges_pure trivial

/-- A join is sound exactly if the compiler finds no defect in it. -/
theorem joinSound_eq_isNone_joinDefect? (type : JoinType) (natural hasCondition hasColumns : Bool) :
    joinSound type natural hasCondition hasColumns =
      (joinDefect? type natural hasCondition hasColumns).isNone := by
  cases type <;> cases natural <;> cases hasCondition <;> cases hasColumns <;> rfl

/-- A join is sound if it has no defect and neither of its sides is hollow. -/
theorem judges_joinTable (hgo : JudgesAll limit n go) (left right : Table) (type : JoinType)
    (natural : Bool) (condition : Option Expr) (columns : List Column) (span : Span) :
    Judges limit n (joinTable go left right type natural condition columns span)
      (Table.join left right type natural condition columns span).sound
      (Table.join left right type natural condition columns span).visits fun _ => True := by
  simp only [joinTable, Table.sound, joinSound_eq_isNone_joinDefect?]
  cases joinDefect? type natural condition.isSome !columns.isEmpty with
  | some defect => exact judges_throw (by simp)
  | none =>
    refine Judges.congr (judges_bind (judges_filled hgo left rfl fun _ => rfl) fun p _ =>
      judges_bind (judges_filled hgo right rfl fun _ => rfl) fun q _ =>
        judges_last (judges_joinCondition hgo condition columns) fun _ _ => judges_pure trivial)
      (by simp) rfl

/-- A derived table has a source exactly if it is not hollow. -/
theorem judges_derivedSource (hgo : JudgesAll limit n go) (query : Subquery)
    (aliasName : Option String) (span : Span) :
    Judges limit n (derivedSource go query.select span) True
      (Table.subquery query aliasName span).visits
      fun o => o.isSome = !(Table.subquery query aliasName span).hollow := by
  obtain ⟨⟨projections, source, condition, groupBy, having, orderBy, page, combine, s⟩, t⟩ :=
    query
  cases projections with
  | some l => exact judges_nested hgo _
  | none =>
    cases source with
    | none => exact judges_of_result (fun _ => rfl) rfl
    | some table =>
      refine judges_last (hgo (.table table)) fun o ho => ?_
      cases o with
      | none => exact judges_of_result (fun _ => rfl) ho
      | some p => exact judges_pure ho

theorem judges_subqueryTable (hgo : JudgesAll limit n go) (query : Subquery)
    (aliasName : Option String) (span : Span) :
    Judges limit n (subqueryTable go query aliasName span) True
      (Table.subquery query aliasName span).visits
      fun o => o.isSome = !(Table.subquery query aliasName span).hollow := by
  refine judges_last (judges_derivedSource hgo query aliasName span) fun o ho => ?_
  cases o with
  | none => exact judges_pure ho
  | some source => cases aliasName <;> exact judges_of_result (fun _ => rfl) ho

/-- The standard compiler accepts a table that is sound, once it has been entered. The table has a
plan exactly if it is not hollow. -/
theorem judges_table (hgo : JudgesAll limit n go) (settings : CompilerSettings) (x : Table) :
    Judges limit n ((⟨settings, .standard⟩ : Compiler).convertEntered go (.table x))
      x.sound x.visits fun o => o.isSome = !x.hollow := by
  cases x with
  | simple t => exact Judges.always (judges_map (judges_simpleTable t) fun _ _ => rfl)
  | join left right type natural condition columns span =>
    exact judges_map (judges_joinTable hgo left right type natural condition columns span)
      fun _ _ => rfl
  | subquery query aliasName span =>
    exact (judges_subqueryTable hgo query aliasName span).always
  | deleteMulti targets relation span => exact judges_refuse _ Bool.false_ne_true

/-! ## Clauses -/

section Clauses

variable {C : α → Prop} {parts : α → List Segment}

theorem judges_whenPresent {f : α → ConvertM β}
    (hf : ∀ a, Judges limit n (f a) (C a) (parts a) fun _ => True) (x : Option α) :
    Judges limit n (whenPresent f x) (∀ a ∈ x, C a) (x.toList.flatMap parts)
      fun _ => True := by
  cases x with
  | none => exact Judges.congr (judges_pure trivial) (by simp) rfl
  | some a =>
    exact Judges.congr (judges_map (hf a) fun _ _ => trivial) (by simp) (by simp)

/-- Where every part has a plan, none is dropped. -/
theorem judges_kept {f : α → ConvertM (Option Plan)}
    (hf : ∀ a, Judges limit n (f a) (C a) (parts a) fun o => o.isSome) :
    ∀ as : List α, Judges limit n (kept f as) (∀ a ∈ as, C a) (as.flatMap parts)
      fun ps => ps.length = as.length
  | [] => Judges.congr (judges_pure rfl) (by simp) rfl
  | a :: as => by
    refine Judges.congr (judges_bind (hf a) fun o ho => ?_) List.forall_mem_cons
      List.flatMap_cons
    refine judges_last (judges_kept hf as) fun ps hps => ?_
    obtain ⟨p, rfl⟩ := Option.isSome_iff_exists.1 ho
    exact judges_pure (congrArg Nat.succ hps)

theorem isSome_nonEmpty_iff {plans : List Plan} {as : List α}
    (h : plans.length = as.length) : (nonEmpty plans).isSome ↔ as ≠ [] := by
  unfold nonEmpty
  rw [← List.length_pos_iff, ← h, List.length_pos_iff]
  cases plans <;> simp

/-- The keys of a clause that must not be empty. -/
theorem judges_keys {f : α → ConvertM (Option Plan)} {clause : Clause} {span : Span}
    (hf : ∀ a, Judges limit n (f a) (C a) (parts a) fun o => o.isSome) (as : List α) :
    Judges limit n (required clause span (nonEmpty <$> kept f as))
      ((∀ a ∈ as, C a) ∧ as ≠ []) (as.flatMap parts) fun _ => True := by
  exact judges_present (judges_map (judges_kept hf as) fun _ => isSome_nonEmpty_iff) rfl
    fun _ => rfl

end Clauses

/-- The key of an item is sound unless it is a position that is out of range. -/
theorem judges_itemKey (hgo : JudgesAll limit n go) (item : OrderItem) :
    Judges limit n (itemKey go item) item.sound item.visits fun o => o.isSome := by
  cases item with
  | column c direction nulls span =>
    exact Judges.always (judges_map (judges_column c) fun _ _ => rfl)
  | expression x direction nulls span => exact (judges_expr hgo x).always
  | ordinal index direction nulls span =>
    simp only [itemKey, countLiteral?, OrderItem.sound, countFits]
    by_cases h : index ≤ greatestLiteral
    · rw [if_pos h]
      exact Judges.congr (judges_pure rfl) (by simp [h]) rfl
    · rw [if_neg h]
      exact judges_throw (by simp [h])

theorem judges_orderItem (hgo : JudgesAll limit n go) (item : OrderItem) :
    Judges limit n (orderItem go item) item.sound item.visits fun o => o.isSome := by
  refine judges_last (judges_itemKey hgo item) fun o ho => ?_
  obtain ⟨p, rfl⟩ := Option.isSome_iff_exists.1 ho
  refine judges_then (Q := fun _ => True) ?_ fun q => judges_then (Q := fun _ => True) ?_
    fun r => judges_pure rfl
  · cases item.direction <;> exact judges_of_result (fun _ => rfl) trivial
  · rcases item.nulls with _ | _ | _ <;> exact judges_of_result (fun _ => rfl) trivial

/-- A clause of keys is sound if it has keys and each of them is sound. -/
theorem judges_orderClause {f : OrderItem → ConvertM (Option Plan)} {clause : Clause}
    (hf : ∀ item, Judges limit n (f item) item.sound item.visits fun o => o.isSome)
    (c : OrderClause) :
    Judges limit n (required clause c.span (nonEmpty <$> kept f c.items)) c.sound
      (c.items.flatMap OrderItem.visits) fun _ => True := by
  refine (judges_keys hf c.items).congr ?_ rfl
  simp [OrderClause.sound, and_comm]

/-- A number of rows is sound if it is in range. -/
theorem judges_pageValue (value : PageValue) :
    Judges limit n (pageValue value) value.sound [] fun _ => True := by
  cases value with
  | number value span =>
    simp only [pageValue, countLiteral?, PageValue.sound, countFits]
    by_cases h : value ≤ greatestLiteral
    · rw [if_pos h]
      exact Judges.congr (judges_pure trivial) (by simp [h]) rfl
    · rw [if_neg h]
      exact judges_throw (by simp [h])
  | parameter index span => exact Judges.always (judges_pure trivial)

theorem judges_condition (hgo : JudgesAll limit n go) (clause : Clause)
    (c : SqlAlgebra.Condition) :
    Judges limit n (required clause c.span (condition go c)) True [.expression c.expr]
      fun _ => True :=
  judges_part (judges_expr hgo c.expr) fun _ => judges_pure trivial

theorem judges_selectItems (hgo : JudgesAll limit n go) :
    ∀ (ordinal : Nat) (ps : List Projection), Judges limit n (selectItems go ordinal ps) True
      (ps.map .projection) fun plans => plans.length = ps.length
  | _, [] => judges_pure rfl
  | ordinal, p :: ps => by
    refine judges_step (fun _ => rfl) ?_
    refine judges_part (hgo (.projection p)) fun plan => ?_
    refine judges_last (judges_selectItems hgo (ordinal + 1) ps) fun plans hplans => ?_
    exact judges_pure (congrArg Nat.succ hplans)

/-- A select list is accepted if it is not empty. -/
theorem judges_selectList (hgo : JudgesAll limit n go) (l : SelectList) :
    Judges limit n (required .selectList l.span (selectList go l)) (l.items ≠ [])
      (l.items.map .projection) fun _ => True :=
  (judges_present (judges_map (judges_selectItems hgo 0 l.items) fun _ => isSome_nonEmpty_iff)
    rfl fun _ => rfl).congr (true_and _).symm.to_iff rfl

/-! ## SELECTs -/

/-- The source of a SELECT is accepted if it is not hollow. -/
theorem judges_source (hgo : JudgesAll limit n go) (source : Option Table) :
    Judges limit n (Conversion.source go source) (source.all (!·.hollow))
      (source.toList.map .table) fun _ => True := by
  cases source with
  | none => exact Judges.always (judges_pure trivial)
  | some t => exact (judges_filled hgo t rfl fun _ => rfl).congr (by simp) rfl

theorem judges_conditions (hgo : JudgesAll limit n go) (clause : Clause)
    (c : Option SqlAlgebra.Condition) :
    Judges limit n (whenPresent (fun c => required clause c.span (condition go c)) c) True
      (conditionVisits c) fun _ => True :=
  (judges_whenPresent (judges_condition hgo clause) c).congr (by simp)
    List.map_eq_flatMap

theorem judges_orderClauses {f : OrderItem → ConvertM (Option Plan)} {clause : Clause}
    (hf : ∀ item, Judges limit n (f item) item.sound item.visits fun o => o.isSome)
    (c : Option OrderClause) :
    Judges limit n
      (whenPresent (fun c => required clause c.span (nonEmpty <$> kept f c.items)) c)
      (c.all OrderClause.sound) (orderVisits c) fun _ => True :=
  (judges_whenPresent (judges_orderClause hf) c).congr (Option.all_eq_true _ c) rfl

theorem judges_page (value : Option PageValue) :
    Judges limit n (whenPresent pageValue value) (value.all PageValue.sound) []
      fun _ => True :=
  (judges_whenPresent judges_pageValue value).congr (Option.all_eq_true _ value) (by simp)

theorem judges_projections (hgo : JudgesAll limit n go) (l : Option SelectList) :
    Judges limit n (whenPresent
      (fun l => (·, l.distinct) <$> required .selectList l.span (selectList go l)) l)
      (l.all (!·.items.isEmpty)) (l.toList.flatMap fun l => l.items.map .projection)
      fun _ => True :=
  (judges_whenPresent (fun l => judges_map (judges_selectList hgo l) fun _ _ => trivial)
    l).congr (by simp [Option.all_eq_true]) rfl

theorem judges_requiredSelect (hgo : JudgesAll limit n go) (clause : Clause) (span : Span)
    (q : Select) :
    Judges limit n (required clause span (go (.select q))) True [.select q] fun _ => True :=
  judges_part (judges_nested hgo q) fun _ => judges_pure trivial

theorem judges_combine (hgo : JudgesAll limit n go) (c : Combine) :
    Judges limit n ((c.type, ·) <$> required .combine c.span (combine go c)) True
      [.select c.query.select] fun _ => True :=
  judges_map (judges_requiredSelect hgo .combine c.span c.query.select) fun _ _ => trivial

theorem judges_combined (hgo : JudgesAll limit n go) (c : Option Combine) :
    Judges limit n (whenPresent
      (fun c => (c.type, ·) <$> required .combine c.span (combine go c)) c) True
      (c.toList.map fun c => .select c.query.select) fun _ => True :=
  (judges_whenPresent (judges_combine hgo) c).congr (by simp) List.map_eq_flatMap

/-- A SELECT is sound if its clauses are, and it converts what they visit. -/
theorem judges_select (hgo : JudgesAll limit n go) (q : Select) :
    Judges limit n (Conversion.select go q) q.sound q.visits fun _ => True := by
  refine judges_inScope (judges_map (Q := fun _ => True) ?_ fun _ _ => trivial)
  refine Judges.congr
    (judges_bind (judges_source hgo q.source) fun _ _ =>
      judges_bind (judges_conditions hgo .condition q.condition) fun _ _ =>
      judges_bind (judges_orderClauses (judges_itemKey hgo) q.groupBy) fun _ _ =>
      judges_bind (judges_conditions hgo .having q.having) fun _ _ =>
      judges_bind (judges_projections hgo q.projections) fun _ _ =>
      judges_bind (judges_orderClauses (judges_orderItem hgo) q.orderBy) fun _ _ =>
      judges_bind (judges_page (q.limit.bind Limit.offset)) fun _ _ =>
      judges_bind (judges_page (q.limit.bind Limit.rowCount)) fun _ _ =>
      judges_last (judges_combined hgo q.combine) fun _ _ => judges_pure trivial) ?_ ?_
  · simp [Select.sound, and_assoc]
  · simp [Select.visits]

/-! ## Statements -/

theorem judges_columns : ∀ cs : List Column, Judges limit n (columns cs) True []
    fun plans => plans.length = cs.length
  | [] => judges_pure rfl
  | c :: cs => judges_then (judges_column c) fun _ => judges_last (judges_columns cs)
      fun _ hps => judges_pure (congrArg Nat.succ hps)

/-- A SET list is accepted if each assignment has one column. -/
theorem judges_assignments (hgo : JudgesAll limit n go) :
    ∀ as : List Assignment, Judges limit n (assignments go as) (singleColumns as)
      (assignmentVisits as)
      fun o => ∃ names values, o = some (names, values) ∧ names.length = as.length
  | [] => Judges.always (judges_pure ⟨[], [], rfl, rfl⟩)
  | a :: as => by
    unfold assignments
    split
    · rename_i c hcolumns
      refine Judges.congr (judges_then (judges_column c) fun name =>
        judges_part (judges_expr hgo a.value) fun value =>
        judges_last (judges_assignments hgo as) ?_) ?_ rfl
      · rintro _ ⟨names, values, rfl, hlength⟩
        exact judges_pure ⟨name :: names, value :: values, rfl, congrArg Nat.succ hlength⟩
      · simp [singleColumns, hcolumns]
    · rename_i hcolumns
      refine judges_throw fun hsingle => ?_
      simp only [singleColumns, List.all_cons, Bool.and_eq_true, beq_iff_eq] at hsingle
      obtain ⟨c, hc⟩ := List.length_eq_one_iff.1 hsingle.1
      exact hcolumns c hc

/-- The rows of VALUES are accepted if they have the length that is asked for. -/
theorem judges_valuesRows (hgo : JudgesAll limit n go) (width : Nat) :
    ∀ rows : List ValuesRow, Judges limit n (valuesRows go width rows)
      (rows.all fun row => row.values.length == width)
      (rows.flatMap fun row => row.values.map .expression) fun o => o.isSome
  | [] => Judges.always (judges_pure rfl)
  | row :: rows => by
    unfold valuesRows
    split
    · rename_i hwidth
      rw [List.flatMap_cons, List.all_cons, hwidth, beq_self_eq_true, Bool.true_and]
      refine judges_parts (judges_expressions hgo .insertStatement row.values) ?_
      rintro _ ⟨values, rfl, -⟩
      refine judges_last (judges_valuesRows hgo width rows) fun o ho => ?_
      obtain ⟨plans, rfl⟩ := Option.isSome_iff_exists.1 ho
      exact judges_pure rfl
    · rename_i hwidth
      exact judges_throw (by simp [hwidth])

/-- An INSERT with one source is sound if the source is. -/
theorem judges_insertSource (hgo : JudgesAll limit n go) (x : Insert) {listed : List Plan}
    (hcount : x.sourceCount = 1) (hlisted : listed.length = x.columns.length) :
    Judges limit n (insertSource go x listed) x.sound (Statement.insert x).visits
      fun o => o.isSome := by
  have hempty : listed.isEmpty = x.columns.isEmpty := by
    rw [Bool.eq_iff_iff, List.isEmpty_iff_length_eq_zero, List.isEmpty_iff_length_eq_zero,
      hlisted]
  unfold insertSource
  simp only [Insert.sound, Statement.visits, hcount, hempty]
  cases hset : x.set with
  | some set =>
    obtain ⟨hquery, hrows⟩ := Insert.only_set hcount hset
    simp only [hquery, hrows]
    cases hcolumns : x.columns.isEmpty with
    | false => exact judges_throw (by simp)
    | true =>
      refine Judges.congr (judges_last (judges_assignments hgo set.assignments) ?_)
        (by simp) (by simp)
      rintro _ ⟨names, values, rfl, -⟩
      exact judges_pure rfl
  | none =>
    cases hquery : x.query with
    | some query =>
      rw [Insert.only_query hcount hquery]
      exact Judges.congr (judges_last
        (judges_requiredSelect hgo .selectList query.span query.select)
        fun _ _ => judges_pure rfl) (by simp) (by simp)
    | none =>
      refine Judges.congr (judges_last (judges_valuesRows hgo x.width x.rows) fun o ho => ?_)
        (by simp) (by simp)
      obtain ⟨rows, rfl⟩ := Option.isSome_iff_exists.1 ho
      exact judges_pure rfl

/-- An INSERT is sound if it has one source, and this source is in order. -/
theorem judges_insert (hgo : JudgesAll limit n go) (x : Insert) :
    Judges limit n (Conversion.insert go x) x.sound (Statement.insert x).visits
      fun o => o.isSome := by
  unfold Conversion.insert
  split
  · rename_i hcount
    refine judges_inScope (judges_step (fun _ => rfl) ?_)
    refine Judges.congr (judges_bind (judges_columns x.columns) fun listed hlisted =>
      judges_last (judges_insertSource hgo x hcount hlisted) fun o ho => ?_) (by simp) rfl
    obtain ⟨⟨names, rows⟩, rfl⟩ := Option.isSome_iff_exists.1 ho
    exact judges_pure rfl
  · rename_i hcount
    exact judges_throw (by simp [Insert.sound, hcount])

theorem judges_target (hgo : JudgesAll limit n go) (t : Table) :
    Judges limit n (target go t) (t.hollow = false) [.table t] fun _ => True :=
  judges_filled hgo t rfl fun _ => rfl

/-- A modification is accepted only without ORDER BY and LIMIT. -/
theorem judges_unordered {m : ConvertM α} {c : Prop} {ps : List Segment} {Q : α → Prop}
    (modification : Modification) (orderBy : Option OrderClause) (page : Option Limit)
    (span : Span) (hm : Judges limit n m c ps Q) :
    Judges limit n (unordered modification orderBy page span m)
      (orderBy.isNone ∧ page.isNone ∧ c) ps Q := by
  unfold unordered
  cases orderBy with
  | some clause => exact judges_throw fun h => Bool.false_ne_true h.1
  | none =>
    cases page with
    | some page => exact judges_throw fun h => Bool.false_ne_true h.2.1
    | none => exact hm.congr (by simp) rfl

/-- An UPDATE is sound if its target is not hollow and its assignments are in order. -/
theorem judges_update (hgo : JudgesAll limit n go) (x : Update) :
    Judges limit n (update go x) x.sound (Statement.update x).visits fun o => o.isSome := by
  refine Judges.congr (judges_unordered .update x.orderBy x.limit x.span (judges_inScope
    (judges_bind (judges_target hgo x.table) fun relation _ =>
      judges_bind (judges_assignments hgo x.set.assignments) fun o ho =>
        (?_ : Judges limit n _ (x.set.assignments ≠ []) (conditionVisits x.condition) _)))) ?_ ?_
  · obtain ⟨names, values, rfl, hlength⟩ := ho
    dsimp only
    split
    · rename_i hnone
      have hnil : x.set.assignments = [] := by
        rw [← List.length_eq_zero_iff, ← hlength, List.isEmpty_iff.1 hnone, List.length_nil]
      exact ⟨fun _ h => absurd hnil h⟩
    · rename_i hsome
      have hne : x.set.assignments ≠ [] := by
        rw [← List.length_pos_iff, ← hlength, List.length_pos_iff]
        exact fun hnil => hsome (List.isEmpty_iff.2 hnil)
      exact Judges.congr (judges_last (judges_conditions hgo .condition x.condition)
        fun _ _ => judges_pure rfl) (iff_true_intro hne) rfl
  · simp [Update.sound, and_assoc]
  · simp [Statement.visits]

/-- A DELETE is sound if its target is not hollow. -/
theorem judges_delete (hgo : JudgesAll limit n go) (x : Delete) :
    Judges limit n (Conversion.delete go x) x.sound (Statement.delete x).visits
      fun _ => True := by
  refine Judges.congr (judges_unordered .delete x.orderBy x.limit x.span (judges_inScope
    (judges_bind (judges_target hgo x.table) fun _ _ =>
      judges_last (judges_conditions hgo .condition x.condition) fun _ _ =>
        judges_pure trivial))) ?_ ?_
  · simp [Delete.sound, and_assoc]
  · simp [Statement.visits]

/-- The standard compiler accepts a statement that is sound, once it has been entered. -/
theorem judges_statement (hgo : JudgesAll limit n go) (settings : CompilerSettings)
    (st : Statement) :
    Judges limit n ((⟨settings, .standard⟩ : Compiler).convertEntered go (.statement st))
      st.sound st.visits fun o => o.isSome := by
  cases st with
  | select s => exact judges_map (judges_select hgo s) fun _ _ => rfl
  | insert s => exact judges_insert hgo s
  | update s => exact judges_update hgo s
  | delete s => exact judges_map (judges_delete hgo s) fun _ _ => rfl

/-! ## Conversions -/

theorem judges_context : Judges limit n context True [] fun _ => True :=
  ⟨fun _ => ⟨trivial, List.forall_mem_nil _, trivial⟩⟩

/-- A segment takes one level more than its parts. -/
theorem Verdict.succ {x : Segment} {Q : α → Prop} {o : Except ConvertError α}
    (h : Verdict limit n x.sound x.visits Q o) : Verdict limit (n + 1) True [x] Q o := by
  cases o with
  | ok a =>
    obtain ⟨hsound, hparts, ha⟩ := h
    have hwf := x.wellFormed_iff.2 ⟨hsound, fun p hp => (hparts p hp).1⟩
    have hheight := Segment.height_le_succ_iff.2 fun p hp => (hparts p hp).2
    exact ⟨trivial, List.forall_mem_singleton.2 ⟨hwf, hheight⟩, ha⟩
  | error e =>
    intro _ hwf
    obtain ⟨hsound, hparts⟩ := x.wellFormed_iff.1 (hwf x (List.mem_singleton.2 rfl))
    obtain ⟨he, p, hp, hn⟩ := h hsound hparts
    refine ⟨he, x, List.mem_singleton.2 rfl, Nat.lt_of_not_le fun hle => ?_⟩
    have := Segment.height_le_succ_iff.1 hle p hp
    omega

namespace Compiler

variable (settings : CompilerSettings)

/-- The standard compiler accepts a segment that is sound, once it has been entered, if its descent
accepts what is visited below. -/
theorem judges_convertEntered (hgo : JudgesAll limit n go) (x : Segment) :
    Judges limit n ((⟨settings, .standard⟩ : Compiler).convertEntered go x) x.sound x.visits
      fun o => o.isSome = !x.hollow := by
  cases x with
  | table t => exact judges_table hgo settings t
  | projection p => exact judges_projection hgo settings p
  | expression x => exact judges_expression hgo settings x
  | statement st => exact judges_statement hgo settings st
  | select q => exact judges_map (judges_select hgo q) fun _ _ => rfl

/-- With `n` levels, a segment is converted if it is well-formed and its height is at most `n`,
and a well-formed segment that is higher fails for want of levels. -/
theorem judges_convertWithin : ∀ n : Nat, JudgesAll settings.maxDepth n
    ((⟨settings, .standard⟩ : Compiler).convertWithin n)
  | 0, x => ⟨fun _ _ _ => ⟨rfl, x, List.mem_singleton.2 rfl, x.height_pos⟩⟩
  | n + 1, x => by
    have hentered := judges_convertEntered settings (judges_convertWithin n) x
    refine judges_then judges_context fun here => judges_step (fun _ => rfl) ?_
    exact ⟨hentered.ends.entering.mono fun _ => Verdict.succ⟩

/-- The verdict on a statement from a fresh state, with all the levels of the limit. -/
theorem verdict_tryConvert (st : Statement) :
    Verdict settings.maxDepth settings.maxDepth.toNat True [.statement st]
      (fun o => o.isSome) ((⟨settings, .standard⟩ : Compiler).tryConvert st) :=
  (judges_convertWithin settings settings.maxDepth.toNat (.statement st)).ends {}

/-- Whether a statement is well-formed decides whether it is converted, once the nesting limit
is at least its height. -/
theorem tryConvert_eq_some_iff (st : Statement)
    (hheight : (Segment.statement st).height ≤ settings.maxDepth.toNat) :
    (∃ plan, (⟨settings, .standard⟩ : Compiler).tryConvert st = .ok (some plan)) ↔
      (Segment.statement st).wellFormed := by
  have hverdict := verdict_tryConvert settings st
  cases hresult : (⟨settings, .standard⟩ : Compiler).tryConvert st with
  | error e =>
    rw [hresult] at hverdict
    refine ⟨fun ⟨_, h⟩ => (by cases h), fun hwf => ?_⟩
    obtain ⟨-, p, hp, hn⟩ := hverdict trivial (List.forall_mem_singleton.2 hwf)
    obtain rfl := List.mem_singleton.1 hp
    omega
  | ok o =>
    rw [hresult] at hverdict
    obtain ⟨-, hparts, hsome⟩ := hverdict
    obtain ⟨plan, rfl⟩ := Option.isSome_iff_exists.1 hsome
    exact ⟨fun _ => (hparts _ (List.mem_singleton.2 rfl)).1, fun _ => ⟨plan, rfl⟩⟩

/-- `DELETE FROM t WHERE ? IN (TABLE u)` is well-formed, low enough for the default settings,
and so converted. -/
theorem tryConvert_eq_some_iff_delete :
    ∃ plan, ({} : Compiler).tryConvert (.delete ⟨.simple { name := "t" },
      some ⟨.membership (.parameter 0 .zero) (.subquery ⟨⟨none, some (.simple { name := "u" }),
        none, none, none, none, none, none, .zero⟩, .zero⟩) false .zero, .zero⟩,
      none, none, .zero⟩) = .ok (some plan) := by
  refine (tryConvert_eq_some_iff {} _ ?_).2 ?_
  · simp [Segment.height_eq, Segment.visits, Statement.visits, conditionVisits, Expr.visits,
      Select.visits, orderVisits, Table.visits]
  · simp [Segment.wellFormed_eq, Segment.sound, Segment.visits, Statement.visits,
      conditionVisits, Expr.visits, Select.visits, orderVisits, Table.visits, Statement.sound,
      Delete.sound, Expr.sound, Select.sound, Table.sound, Table.hollow]

end Compiler

end SqlAlgebra
