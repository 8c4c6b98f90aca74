import SqlAlgebra.Proofs.Acceptance
import SqlAlgebra.Proofs.Reference
import SqlAlgebra.Proofs.Removal

/-!
# Saturated plans

A plan is saturated (`Plan.Saturated`) if every call in it, at any depth, has as many operands as
its operator accepts. Most operators of a call are fixed, and so is the number of operands. The
others come from the operator table, which may map any text to any operator. A rule for function
calls asks the operator before it converts the arguments. The rule for binary operations has two
operands whatever the operator, and if that is wrong the call itself fails
(`Segment.Misuses`).

`Builds operators own m P` says this of a conversion: its values satisfy `P`, and if it fails for
a wrong number of operands, then `own` says so, or a binary operation that the run has entered is
to blame. There is one lemma for each rule, and the registry plays no part in any of them;
`Compiler.builds_convertEntered` collects them.
-/

namespace SqlAlgebra

open Conversion ConvertM

/-! ## Saturated plans -/

namespace Plan

/-- Whether a node, if it is a call, has as many operands as its operator accepts. -/
def fits : Plan → Bool
  | call op operands _ _ => op.arity.accepts operands.length
  | _ => true

/-- Every call in the plan, at any depth, has as many operands as its operator accepts. -/
def Saturated (plan : Plan) : Prop :=
  ∀ p ∈ plan.walk, p.fits

/-- A plan is saturated if its root fits and its children are saturated. -/
theorem saturated_of_children {plan : Plan} (hfits : plan.fits)
    (h : ∀ child ∈ plan.children, child.Saturated) : plan.Saturated := by
  unfold Saturated
  rw [walk_eq]
  refine List.forall_mem_cons.2 ⟨hfits, fun p hp => ?_⟩
  obtain ⟨child, hchild, hp⟩ := List.mem_flatMap.1 hp
  exact h child hchild p hp

section Nodes

variable {p : Plan} {ps : List Plan}

theorem saturated_scan (table : List String) (span : Span) : (scan table span).Saturated :=
  saturated_of_children rfl (List.forall_mem_nil _)

theorem saturated_identifier (names : List String) (span : Span) :
    (identifier names span).Saturated :=
  saturated_of_children rfl (List.forall_mem_nil _)

theorem saturated_literal (value : Literal) (span : Span) : (literal value span).Saturated :=
  saturated_of_children rfl (List.forall_mem_nil _)

theorem saturated_parameter (index : UInt64) (span : Span) : (parameter index span).Saturated :=
  saturated_of_children rfl (List.forall_mem_nil _)

/-- A call is saturated if it has as many operands as its operator accepts, and they are
saturated. -/
theorem saturated_call {op : Operator} (ha : op.arity.accepts ps.length)
    (h : ∀ p ∈ ps, p.Saturated) (distinct : Bool) (span : Span) :
    (call op ps distinct span).Saturated :=
  saturated_of_children ha h

theorem saturated_aliased (h : p.Saturated) (name : Option String) (span : Span) :
    (p.aliased name span).Saturated := by
  cases name with
  | none => exact saturated_call rfl (List.forall_mem_singleton.2 h) _ _
  | some name =>
    exact saturated_call rfl (List.forall_mem_cons.2
      ⟨h, List.forall_mem_singleton.2 (saturated_identifier [name] .zero)⟩) _ _

theorem saturated_titled (h : p.Saturated) (name : Option String) (span : Span) :
    (p.titled name span).Saturated := by
  cases name with
  | none => exact h
  | some name => exact saturated_aliased h (some name) span

theorem saturated_explicitTable (h : p.Saturated) : p.explicitTable.Saturated :=
  saturated_call rfl (List.forall_mem_singleton.2 h) _ _

theorem saturated_values {rows : List (List Plan)} (h : ∀ row ∈ rows, ∀ p ∈ row, p.Saturated) :
    (values rows).Saturated := by
  refine saturated_of_children rfl fun p hp => ?_
  obtain ⟨row, hrow, hp⟩ := List.mem_flatten.1 hp
  exact h row hrow p hp

theorem saturated_modify {operation : Modification} {columns : List Plan} {source : Option Plan}
    {expressions : List Plan} {condition : Option Plan} (htarget : p.Saturated)
    (hcolumns : ∀ x ∈ columns, x.Saturated) (hsource : ∀ x ∈ source, x.Saturated)
    (hexpressions : ∀ x ∈ expressions, x.Saturated) (hcondition : ∀ x ∈ condition, x.Saturated) :
    (modify operation p columns source expressions condition).Saturated := by
  refine saturated_of_children rfl fun x hx => ?_
  simp only [children, List.cons_append, List.mem_cons, List.mem_append, Option.mem_toList] at hx
  rcases hx with rfl | ((hx | hx) | hx) | hx
  · exact htarget
  · exact hcolumns x hx
  · exact hsource x hx
  · exact hexpressions x hx
  · exact hcondition x hx

end Nodes

end Plan

/-! ### The clauses of a SELECT -/

namespace SelectParts

open Plan

variable {p : Plan}

/-- The layer of WHERE keeps a plan saturated. -/
theorem saturated_filtered {condition : Option Plan} (hp : p.Saturated)
    (hcondition : ∀ x ∈ condition, x.Saturated) : (filtered condition p).Saturated := by
  cases condition with
  | none => exact hp
  | some x =>
    exact saturated_of_children rfl (List.forall_mem_cons.2
      ⟨hp, List.forall_mem_singleton.2 (hcondition x rfl)⟩)

theorem saturated_grouped {keys : Option (List Plan)} (having : Option Plan) (hp : p.Saturated)
    (hkeys : ∀ ks ∈ keys, ∀ x ∈ ks, x.Saturated) : (grouped keys having p).Saturated := by
  unfold grouped
  split
  · exact hp
  · refine saturated_of_children rfl (List.forall_mem_cons.2 ⟨hp, ?_⟩)
    cases keys with
    | none => exact List.forall_mem_nil _
    | some ks => exact hkeys ks rfl

theorem saturated_projected {projections : Option (List Plan × Bool)} (hp : p.Saturated)
    (hitems : ∀ r ∈ projections, ∀ x ∈ r.1, x.Saturated) :
    (projected projections p).Saturated := by
  cases projections with
  | none => exact hp
  | some r => exact saturated_of_children rfl (List.forall_mem_cons.2 ⟨hp, hitems r rfl⟩)

theorem saturated_combinedWith {combined : Option (CombineType × Plan)} (hp : p.Saturated)
    (hright : ∀ r ∈ combined, r.2.Saturated) : (combinedWith combined p).Saturated := by
  cases combined with
  | none => exact hp
  | some r =>
    exact saturated_of_children rfl (List.forall_mem_cons.2
      ⟨hp, List.forall_mem_singleton.2 (hright r rfl)⟩)

theorem saturated_sorted {keys : List Plan} {offset fetch : Option Plan} (hp : p.Saturated)
    (hkeys : ∀ x ∈ keys, x.Saturated) (hoffset : ∀ x ∈ offset, x.Saturated)
    (hfetch : ∀ x ∈ fetch, x.Saturated) : (sorted keys offset fetch p).Saturated := by
  unfold sorted
  split
  · exact hp
  · refine saturated_of_children rfl fun x hx => ?_
    simp only [children, List.cons_append, List.mem_cons, List.mem_append,
      Option.mem_toList] at hx
    rcases hx with rfl | (hx | hx) | hx
    · exact hp
    · exact hkeys x hx
    · exact hoffset x hx
    · exact hfetch x hx

end SelectParts

/-! ## Binary operations with the wrong operator -/

/-- The operator table gives a binary operation an operator that does not take two operands. A
test by IS does not ask the table. -/
inductive Segment.Misuses (operators : OperatorTable) : Segment → ArityError → Prop
  | binary {left right : Expr} {text : String} {span : Span} {op : Operator}
      (htest : testNegated? text = none) (hop : operators.resolveBinary? text = some op)
      (harity : ¬op.arity.accepts 2) :
    Misuses operators (.expression (.binary left text right span)) ⟨op, 2⟩

/-! ## Building plans -/

variable {α β : Type} {operators : OperatorTable} {own : ArityError → Prop} {P : α → Prop}
  {Q : β → Prop}

/-- The end of a conversion. A value satisfies `P`. If there are too many or too few operands
for an operator, then `own` says so or a binary operation that has been entered is to blame. -/
structure Measured (operators : OperatorTable) (own : ArityError → Prop) (P : α → Prop)
    (r : Except ConvertError α × Session) : Prop where
  value : ∀ a, r.1 = .ok a → P a
  blame : ∀ error, r.1 = .error (.invalidArity error) →
    own error ∨ ∃ y ∈ r.2.entered, y.Misuses operators error

/-- From every state, `m` ends as described by `Measured`. -/
def Builds (operators : OperatorTable) (own : ArityError → Prop) (m : ConvertM α)
    (P : α → Prop) : Prop :=
  ∀ s, Measured operators own P (m.outcome s)

/-- A conversion builds a value with `P`, or nothing. -/
abbrev Offers (operators : OperatorTable) (own : ArityError → Prop) (m : ConvertM (Option α))
    (P : α → Prop) : Prop :=
  Builds operators own m fun o => ∀ a ∈ o, P a

/-- What always has a value has no one to blame. -/
theorem builds_of_result {m : ConvertM α} (a : Session → α)
    (hm : ∀ s, (m.outcome s).1 = .ok (a s)) (ha : ∀ s, P (a s)) : Builds operators own m P := by
  refine fun s => ⟨fun b h => ?_, fun error h => ?_⟩
  · obtain rfl : a s = b := Except.ok.inj ((hm s).symm.trans h)
    exact ha s
  · cases (hm s).symm.trans h

theorem builds_pure {a : α} (ha : P a) : Builds operators own (pure a) P :=
  builds_of_result (fun _ => a) (fun _ => rfl) fun _ => ha

theorem builds_of_error {m : ConvertM α} (e : Session → ConvertError)
    (hm : ∀ s, (m.outcome s).1 = .error (e s))
    (he : ∀ s error, e s = .invalidArity error → own error) : Builds operators own m P := by
  refine fun s => ⟨fun a h => ?_, fun error h => .inl (he s error ?_)⟩
  · cases (hm s).symm.trans h
  · exact Except.error.inj ((hm s).symm.trans h)

/-- Whether a failure is for a wrong number of operands. -/
def ConvertError.isArity : ConvertError → Bool
  | invalidArity _ => true
  | _ => false

theorem builds_throw {e : ConvertError} (he : e.isArity = false) :
    Builds operators own (throw e) P := by
  refine builds_of_error (fun _ => e) (fun _ => rfl) ?_
  rintro - error rfl
  cases he

/-- What is known of the values may be weakened. -/
theorem Builds.mono {m : ConvertM α} {P' : α → Prop} (h : Builds operators own m P)
    (hP : ∀ a, P a → P' a) : Builds operators own m P' :=
  fun s => ⟨fun a ha => hP a ((h s).value a ha), (h s).blame⟩

/-- A sequence builds what its second step builds, and blames whom one of its steps blames. -/
theorem builds_bind {m : ConvertM α} {f : α → ConvertM β} (hm : Builds operators own m P)
    (hf : ∀ a, P a → Builds operators own (f a) Q) : Builds operators own (m >>= f) Q := by
  intro s
  have h := hm s
  rcases hr : m.outcome s with ⟨e | a, t⟩ <;> rw [hr] at h
  · rw [outcome_bind_of_error hr]
    refine ⟨fun b hb => ?_, fun error he => h.blame error ?_⟩
    · cases hb
    · exact congrArg Except.error (Except.error.inj he)
  · rw [outcome_bind_of_ok hr]
    exact hf a (h.value a rfl) t

theorem builds_map {m : ConvertM α} {f : α → β} (hm : Builds operators own m P)
    (hf : ∀ a, P a → Q (f a)) : Builds operators own (f <$> m) Q := by
  rw [map_eq_pure_bind]
  exact builds_bind hm fun a ha => builds_pure (hf a ha)

theorem builds_inScope {m : ConvertM α} (hm : Builds operators own m P) :
    Builds operators own (inScope m) P := by
  intro s
  rw [outcome_inScope]
  refine ⟨(hm s.pushScope).value, fun error h => ?_⟩
  rw [Session.entered_rollback]
  exact (hm s.pushScope).blame error h

/-- A step that does no more than change the state. -/
theorem builds_step {m : ConvertM Unit} {f : Unit → ConvertM β}
    (hm : ∀ s, (m.outcome s).1 = .ok ()) (hf : Builds operators own (f ()) Q) :
    Builds operators own (m >>= f) Q :=
  builds_bind (builds_of_result (P := fun _ => True) _ hm fun _ => trivial) fun _ _ => hf

theorem builds_none : Offers operators own (pure none) P :=
  builds_pure (by simp)

theorem builds_some {a : α} (ha : P a) : Offers operators own (pure (some a)) P :=
  builds_pure (by rintro _ ⟨⟩; exact ha)

theorem builds_mapSome {m : ConvertM α} (hm : Builds operators own m P) :
    Offers operators own (some <$> m) P :=
  builds_map hm fun a ha => by rintro _ ⟨⟩; exact ha

/-- A part that may convert to nothing, and what follows it. -/
theorem builds_part {m : ConvertM (Option α)} {f : Option α → ConvertM β}
    (hm : Offers operators own m P) (hnone : Builds operators own (f none) Q)
    (hf : ∀ a, P a → Builds operators own (f (some a)) Q) :
    Builds operators own (m >>= f) Q :=
  builds_bind hm fun
    | none, _ => hnone
    | some a, ha => hf a (ha a rfl)

/-- The descent builds saturated plans, and takes no blame for the segments it enters. -/
def Sound (operators : OperatorTable) (go : Descent) : Prop :=
  ∀ x, Offers operators (fun _ => False) (go x) Plan.Saturated

variable {go : Descent}

/-- The descent builds saturated plans for any segment it is handed. -/
theorem builds_descend (hgo : Sound operators go) (x : Segment) :
    Offers operators own (go x) Plan.Saturated :=
  fun s => ⟨(hgo x s).value, fun error h => .inr (((hgo x s).blame error h).resolve_left id)⟩

/-! ### Expressions -/

/-- A call is built unless its operator does not accept its operands. -/
theorem builds_call {op : Operator} {operands : List Plan} (distinct : Bool) (span : Span)
    (h : ∀ p ∈ operands, p.Saturated)
    (hown : ¬op.arity.accepts operands.length → own ⟨op, operands.length⟩) :
    Builds operators own (call op operands distinct span) Plan.Saturated := by
  unfold call Plan.apply
  by_cases ha : op.arity.accepts operands.length
  · rw [if_pos ha]
    exact builds_pure (Plan.saturated_call ha h distinct span)
  · rw [if_neg ha]
    refine builds_of_error _ (fun _ => rfl) fun _ error he => ?_
    obtain rfl := ConvertError.invalidArity.inj he
    exact hown ha

/-- The call that ends the conversion of an expression. -/
theorem builds_callSome {op : Operator} {operands : List Plan} (distinct : Bool) (span : Span)
    (h : ∀ p ∈ operands, p.Saturated) (ha : op.arity.accepts operands.length) :
    Offers operators own (do return some (← call op operands distinct span)) Plan.Saturated :=
  builds_bind (builds_call distinct span h (absurd ha)) fun _ hp => builds_some hp

theorem builds_column (c : Column) : Builds operators own (column c) Plan.Saturated :=
  builds_of_result _ (result_column c) fun _ => Plan.saturated_identifier _ _

/-- A list of expressions has as many saturated plans, or none at all. -/
theorem builds_expressions (hgo : Sound operators go) (owner : SegmentKind) :
    ∀ es : List Expr, Offers operators own (expressions go owner es)
      fun ps => ps.length = es.length ∧ ∀ p ∈ ps, p.Saturated
  | [] => builds_some ⟨rfl, List.forall_mem_nil _⟩
  | e :: es => by
    refine builds_part (builds_descend hgo (.expression e)) ?_ fun p hp => ?_
    · exact builds_step (fun _ => rfl) builds_none
    · refine builds_part (builds_expressions hgo owner es) builds_none fun ps hps => ?_
      exact builds_some ⟨congrArg Nat.succ hps.1, List.forall_mem_cons.2 ⟨hp, hps.2⟩⟩

/-- A call on the values of some expressions. -/
theorem builds_apply (hgo : Sound operators go) {owner : SegmentKind} {es : List Expr}
    {op : Operator} (span : Span) (ha : op.arity.accepts es.length) :
    Offers operators own (do
      let some operands ← expressions go owner es | return none
      return some (← call op operands false span)) Plan.Saturated :=
  builds_part (builds_expressions hgo owner es) builds_none fun _ hps =>
    builds_callSome _ _ hps.2 (hps.1 ▸ ha)

/-- Two saturated plans are a list of saturated plans. -/
theorem forall_mem_pair {p q : Plan} (hp : p.Saturated) (hq : q.Saturated) :
    ∀ x ∈ [p, q], x.Saturated :=
  List.forall_mem_cons.2 ⟨hp, List.forall_mem_singleton.2 hq⟩

/-- Only here an operator of the table is called without being asked for its arity. -/
theorem builds_binary (hgo : Sound operators go) (left : Expr) (text : String) (right : Expr)
    (span : Span) :
    Offers operators ((Segment.expression (.binary left text right span)).Misuses operators)
      (binary operators go left text right span) Plan.Saturated := by
  rw [binary, operators.resolveBinary?_collapsed]
  cases htest : testNegated? text with
  | some negated =>
    dsimp only
    cases hright : literalTest? negated right with
    | none => exact builds_throw rfl
    | some op =>
      refine builds_part (builds_descend hgo (.expression left)) builds_none fun p hp => ?_
      exact builds_callSome _ _ (List.forall_mem_singleton.2 hp) (accepts_of_literalTest? hright)
  | none =>
    dsimp only
    cases hop : operators.resolveBinary? text with
    | none => exact builds_throw rfl
    | some op =>
      refine builds_part (builds_descend hgo (.expression left)) builds_none fun p hp => ?_
      refine builds_part (builds_descend hgo (.expression right)) builds_none fun q hq => ?_
      refine builds_bind (builds_call _ _ (forall_mem_pair hp hq) ?_) fun _ hp => builds_some hp
      exact .binary htest hop

/-- NOT takes one operand and gets one. -/
theorem builds_negation (hgo : Sound operators go) (operand : Expr) (span : Span) :
    Offers operators own (negation go operand span) Plan.Saturated :=
  builds_part (builds_descend hgo (.expression operand)) builds_none fun _ hp =>
    builds_callSome _ _ (List.forall_mem_singleton.2 hp) rfl

/-- IN takes two operands and gets two. -/
theorem builds_membership (hgo : Sound operators go) (left right : Expr) (negated : Bool)
    (span : Span) :
    Offers operators own (membership go left right negated span) Plan.Saturated := by
  have hsource : Offers operators own (memberSource go right) Plan.Saturated := by
    unfold memberSource
    split
    · exact builds_descend hgo _
    · exact builds_descend hgo _
  refine builds_part (builds_descend hgo (.expression left)) builds_none fun p hp => ?_
  refine builds_part hsource builds_none fun q hq => ?_
  refine builds_callSome _ _ (forall_mem_pair hp hq) ?_
  cases negated <;> rfl

/-- BETWEEN takes three operands and gets three. -/
theorem builds_between (hgo : Sound operators go) (operand low high : Expr) (negated : Bool)
    (span : Span) :
    Offers operators own (between go operand low high negated span) Plan.Saturated :=
  builds_apply hgo span (by cases negated <;> rfl)

theorem builds_list (hgo : Sound operators go) (items : List Expr) (span : Span) :
    Offers operators own (list go items span) Plan.Saturated :=
  builds_part (builds_expressions hgo .list items) builds_none fun _ hps =>
    builds_some (Plan.saturated_of_children rfl hps.2)

/-- The operator of a function is asked for its arity before its arguments are converted. -/
theorem builds_arguments (hgo : Sound operators go) (op : Operator) (arguments : List Expr)
    (span : Span) :
    Offers operators own (do
      if op.arity.accepts arguments.length then
        let some operands ← expressions go .function arguments | return none
        return some (← call op operands false span)
      else
        throw (.malformedSegment .function (.argumentCount op arguments.length) span))
      Plan.Saturated := by
  split
  · rename_i ha
    exact builds_apply hgo span ha
  · exact builds_throw rfl

theorem builds_function (hgo : Sound operators go) (name : String) (arguments : List Expr)
    (span : Span) :
    Offers operators own (function operators go name arguments span) Plan.Saturated := by
  unfold function
  dsimp only
  split
  · exact builds_step (fun _ => rfl) (builds_arguments hgo _ arguments span)
  · exact builds_arguments hgo _ arguments span

theorem builds_aggregation (hgo : Sound operators go) (a : Aggregation) :
    Offers operators own (aggregation go a) Plan.Saturated := by
  have hoperands : Offers operators own (aggregateOperands go a) fun ps =>
      (aggregateOperator a.function).arity.accepts ps.length ∧ ∀ p ∈ ps, p.Saturated := by
    unfold aggregateOperands
    dsimp only
    split
    · split
      · rename_i hcount
        refine builds_some ⟨?_, List.forall_mem_singleton.2 (Plan.saturated_identifier _ _)⟩
        rw [hcount]
        rfl
      · exact builds_throw rfl
    · split
      · rename_i ha
        refine (builds_expressions hgo .aggregation a.arguments).mono fun o ho ps hps => ?_
        exact ⟨(ho ps hps).1 ▸ ha, (ho ps hps).2⟩
      · exact builds_throw rfl
  exact builds_part hoperands builds_none fun _ hps => builds_callSome _ _ hps.2 hps.1

theorem builds_scalarSubquery (hgo : Sound operators go) (query : Subquery) :
    Offers operators own (scalarSubquery go query) Plan.Saturated :=
  builds_part (builds_descend hgo _) builds_none fun _ hp =>
    builds_callSome _ _ (List.forall_mem_singleton.2 hp) rfl

theorem builds_existence (hgo : Sound operators go) (query : Subquery) (negated : Bool)
    (span : Span) :
    Offers operators own (existence go query negated span) Plan.Saturated := by
  refine builds_part (builds_descend hgo _) builds_none fun p hp => ?_
  refine builds_bind (builds_call _ _ (List.forall_mem_singleton.2 hp) (absurd rfl)) ?_
  intro test htest
  cases negated with
  | false => exact builds_some htest
  | true => exact builds_callSome _ _ (List.forall_mem_singleton.2 htest) rfl

/-- The branches of a CASE have two saturated plans each. -/
theorem builds_branches (hgo : Sound operators go) :
    ∀ whens thens : List Expr, Offers operators own (branches go whens thens)
      fun ps => ps.length = (interleaved whens thens).length ∧ ∀ p ∈ ps, p.Saturated
  | w :: ws, t :: ts => by
    refine builds_part (builds_descend hgo (.expression w)) builds_none fun p hp => ?_
    refine builds_part (builds_descend hgo (.expression t)) builds_none fun q hq => ?_
    refine builds_part (builds_branches hgo ws ts) builds_none fun ps hps => ?_
    refine builds_some ⟨?_, List.forall_mem_cons.2 ⟨hp, List.forall_mem_cons.2 ⟨hq, hps.2⟩⟩⟩
    exact congrArg (· + 2) hps.1
  | [], _ => builds_some ⟨rfl, List.forall_mem_nil _⟩
  | _ :: _, [] => builds_some ⟨rfl, List.forall_mem_nil _⟩

theorem builds_caseOperand (hgo : Sound operators go) :
    ∀ operand : Option Expr, Offers operators own (caseOperand go operand)
      fun ps => ps.length = operand.toList.length ∧ ∀ p ∈ ps, p.Saturated
  | none => builds_some ⟨rfl, List.forall_mem_nil _⟩
  | some x => builds_part (builds_descend hgo (.expression x)) builds_none fun _ hp =>
    builds_some ⟨rfl, List.forall_mem_singleton.2 hp⟩

theorem builds_caseOtherwise (hgo : Sound operators go) :
    ∀ otherwise : Option Expr, Offers operators own (caseOtherwise go otherwise) Plan.Saturated
  | none => builds_some (Plan.saturated_literal _ _)
  | some x => builds_descend hgo (.expression x)

/-- A CASE has a saturated plan, as it takes any number of operands. -/
theorem builds_caseWhen (hgo : Sound operators go) (operand : Option Expr)
    (whens thens : List Expr) (otherwise : Option Expr) (span : Span) :
    Offers operators own (caseWhen go operand whens thens otherwise span) Plan.Saturated := by
  unfold caseWhen
  split
  · exact builds_throw rfl
  · rename_i hcount
    simp only [Bool.or_eq_true, List.isEmpty_iff, bne_iff_ne, not_or, not_not] at hcount
    refine builds_part (builds_caseOperand hgo operand) builds_none fun lead hlead => ?_
    refine builds_part (builds_branches hgo whens thens) builds_none fun middle hmiddle => ?_
    refine builds_part (builds_caseOtherwise hgo otherwise) builds_none fun last hlast => ?_
    refine builds_callSome _ _ ?_
      (accepts_caseOperator hcount.1 hcount.2 hlead.1 hmiddle.1 last)
    exact List.forall_mem_append.2
      ⟨List.forall_mem_append.2 ⟨hlead.2, hmiddle.2⟩, List.forall_mem_singleton.2 hlast⟩

/-- Every rule for expressions builds saturated plans, and blames its segment only where that is a
binary operation. -/
theorem builds_exprRule (hgo : Sound operators go) (rule : ExprRule) (x : Expr) :
    Offers operators ((Segment.expression x).Misuses operators) (rule.apply operators go x)
      Plan.Saturated := by
  unfold ExprRule.apply
  split
  · exact builds_mapSome (builds_column _)
  · exact builds_some (Plan.saturated_literal _ _)
  · exact builds_some (Plan.saturated_parameter _ _)
  · exact builds_binary hgo _ _ _ _
  · exact builds_negation hgo _ _
  · exact builds_membership hgo _ _ _ _
  · exact builds_between hgo _ _ _ _ _
  · exact builds_list hgo _ _
  · exact builds_function hgo _ _ _
  · exact builds_aggregation hgo _
  · exact builds_scalarSubquery hgo _
  · exact builds_existence hgo _ _ _
  · exact builds_caseWhen hgo _ _ _ _ _
  · exact builds_throw rfl

/-! ### Select-list items and tables -/

/-- A title keeps a plan saturated. -/
theorem builds_named (settings : CompilerSettings) (kind : SegmentKind)
    (aliasName : Option String) (span : Span) {p : Plan} (hp : p.Saturated) :
    Builds operators own (named settings kind aliasName span p) Plan.Saturated :=
  builds_of_result _ (result_named settings kind aliasName span p) fun _ =>
    Plan.saturated_titled hp _ span

theorem builds_columnItem (c : Column) (aliasName : Option String) (span : Span) :
    Builds operators own (columnItem c aliasName span) Plan.Saturated := by
  refine builds_bind (builds_column c) fun p hp => ?_
  cases aliasName with
  | none => exact builds_pure hp
  | some name => exact builds_pure (Plan.saturated_aliased hp (some name) span)

theorem builds_namedSome {m : ConvertM (Option Plan)} (settings : CompilerSettings)
    (kind : SegmentKind) (aliasName : Option String) (span : Span)
    (hm : Offers operators own m Plan.Saturated) :
    Offers operators own (do
      let some plan ← m | return none
      return some (← named settings kind aliasName span plan)) Plan.Saturated :=
  builds_part hm builds_none fun _ hp =>
    builds_bind (builds_named settings kind aliasName span hp) fun _ hq => builds_some hq

/-- Every rule for items of a select list builds saturated plans. -/
theorem builds_projectionRule (hgo : Sound operators go) (settings : CompilerSettings)
    (rule : ProjectionRule) (x : Projection) :
    Offers operators own (rule.apply settings go x) Plan.Saturated := by
  unfold ProjectionRule.apply
  split
  · exact builds_mapSome (builds_columnItem _ _ _)
  · exact builds_namedSome _ _ _ _ (builds_descend hgo _)
  · exact builds_namedSome _ _ _ _ (builds_aggregation hgo _)
  · exact builds_some (Plan.saturated_identifier _ _)
  · exact builds_namedSome _ _ _ _ (builds_scalarSubquery hgo _)
  · exact builds_throw rfl

theorem builds_simpleTable (t : SimpleTable) :
    Builds operators own (simpleTable t) Plan.Saturated := by
  refine builds_step (fun _ => rfl) ?_
  dsimp only
  split
  · exact builds_pure (Plan.saturated_aliased (Plan.saturated_scan _ _) _ _)
  · exact builds_pure (Plan.saturated_scan _ _)

theorem builds_joinSide (hgo : Sound operators go) (side : Table) (span : Span) :
    Builds operators own (joinSide go side span) Plan.Saturated :=
  builds_part (builds_descend hgo _) (builds_throw rfl) fun _ hp => builds_pure hp

theorem builds_joinTable (hgo : Sound operators go) (left right : Table) (type : JoinType)
    (natural : Bool) (condition : Option Expr) (columns : List Column) (span : Span) :
    Builds operators own (joinTable go left right type natural condition columns span)
      Plan.Saturated := by
  unfold joinTable
  split
  · exact builds_throw rfl
  · refine builds_bind (builds_joinSide hgo left span) fun p hp => ?_
    refine builds_bind (builds_joinSide hgo right span) fun q hq => ?_
    unfold joinCondition
    cases condition with
    | none =>
      dsimp only
      split <;> exact builds_pure (Plan.saturated_of_children rfl (forall_mem_pair hp hq))
    | some x =>
      dsimp only
      rw [bind_assoc]
      refine builds_part (builds_descend hgo (.expression x)) (builds_throw rfl) fun r hr => ?_
      exact builds_pure (Plan.saturated_of_children rfl
        (List.forall_mem_cons.2 ⟨hp, forall_mem_pair hq hr⟩))

theorem builds_derivedSource (hgo : Sound operators go) (q : Select) (span : Span) :
    Offers operators own (derivedSource go q span) Plan.Saturated := by
  unfold derivedSource
  cases q.projections with
  | some l => exact builds_descend hgo _
  | none =>
    have hnone : Offers operators own (do
        report (.sourceMissing span)
        return none) Plan.Saturated := builds_step (fun _ => rfl) builds_none
    dsimp only
    cases q.source with
    | none => exact hnone
    | some table =>
      exact builds_part (builds_descend hgo _) hnone fun _ hp =>
        builds_some (Plan.saturated_explicitTable hp)

theorem builds_subqueryTable (hgo : Sound operators go) (query : Subquery)
    (aliasName : Option String) (span : Span) :
    Offers operators own (subqueryTable go query aliasName span) Plan.Saturated := by
  refine builds_part (builds_derivedSource hgo query.select span) builds_none fun p hp => ?_
  have haliased := Plan.saturated_aliased hp aliasName span
  cases aliasName with
  | none => exact builds_some haliased
  | some name => exact builds_step (fun _ => rfl) (builds_some haliased)

/-- Every rule for tables builds saturated plans. -/
theorem builds_tableRule (hgo : Sound operators go) (rule : TableRule) (t : Table) :
    Offers operators own (rule.apply go t) Plan.Saturated := by
  unfold TableRule.apply
  split
  · exact builds_mapSome (builds_simpleTable _)
  · exact builds_mapSome (builds_joinTable hgo _ _ _ _ _ _ _)
  · exact builds_subqueryTable hgo _ _ _
  · exact builds_throw rfl

/-! ### SELECTs -/

theorem builds_required {m : ConvertM (Option α)} (clause : Clause) (span : Span)
    (hm : Offers operators own m P) :
    Builds operators own (required clause span m) P :=
  builds_part hm (builds_throw rfl) fun _ ha => builds_pure ha

theorem builds_whenPresent {γ : Type} {f : γ → ConvertM α} (h : ∀ c, Builds operators own (f c) P) :
    ∀ o : Option γ, Offers operators own (whenPresent f o) P
  | none => builds_none
  | some c => builds_mapSome (h c)

theorem builds_kept {f : α → ConvertM (Option Plan)}
    (h : ∀ a, Offers operators own (f a) Plan.Saturated) :
    ∀ as : List α, Builds operators own (kept f as) fun ps => ∀ p ∈ ps, p.Saturated
  | [] => builds_pure (List.forall_mem_nil _)
  | a :: as => by
    refine builds_bind (h a) fun o ho => builds_bind (builds_kept h as) fun ps hps => ?_
    refine builds_pure (List.forall_mem_append.2 ⟨fun p hp => ?_, hps⟩)
    exact ho p (Option.mem_toList.1 hp)

theorem builds_selectItems (hgo : Sound operators go) : ∀ (ordinal : Nat) (xs : List Projection),
    Builds operators own (selectItems go ordinal xs) fun ps => ∀ p ∈ ps, p.Saturated
  | _, [] => builds_pure (List.forall_mem_nil _)
  | ordinal, x :: xs => by
    refine builds_step (fun _ => rfl) (builds_bind (builds_descend hgo _) fun o ho => ?_)
    refine builds_bind (builds_selectItems hgo (ordinal + 1) xs) fun ps hps => ?_
    refine builds_pure (List.forall_mem_append.2 ⟨fun p hp => ?_, hps⟩)
    exact ho p (Option.mem_toList.1 hp)

/-- Plans of which some must be left. -/
theorem builds_nonEmpty {m : ConvertM (List Plan)}
    (hm : Builds operators own m fun ps => ∀ p ∈ ps, p.Saturated) :
    Offers operators own (nonEmpty <$> m) fun ps => ∀ p ∈ ps, p.Saturated := by
  refine builds_map hm fun ps hps o ho => ?_
  unfold nonEmpty at ho
  split at ho
  · cases ho
  · cases ho
    exact hps

/-- A number is no call. -/
theorem saturated_of_countLiteral? {n : UInt64} {span : Span} {p : Plan}
    (h : countLiteral? n span = some p) : p.Saturated := by
  unfold countLiteral? at h
  split at h
  · obtain rfl := Option.some.inj h
    exact Plan.saturated_literal _ _
  · cases h

theorem builds_itemKey (hgo : Sound operators go) (item : OrderItem) :
    Offers operators own (itemKey go item) Plan.Saturated := by
  cases item with
  | column c direction nulls span => exact builds_mapSome (builds_column c)
  | expression x direction nulls span => exact builds_descend hgo (.expression x)
  | ordinal index direction nulls span =>
    rw [itemKey]
    cases hliteral : countLiteral? index span with
    | none => exact builds_throw rfl
    | some p => exact builds_some (saturated_of_countLiteral? hliteral)

/-- A key stays saturated in its direction and with the place of its nulls. -/
theorem builds_orderItem (hgo : Sound operators go) (item : OrderItem) :
    Offers operators own (orderItem go item) Plan.Saturated := by
  have hmarked : ∀ (op : CoreOperator) (span : Span) {p : Plan}, op.arity.accepts 1 →
      p.Saturated → Builds operators own (call op [p] false span) Plan.Saturated :=
    fun op span p ha hp => builds_call _ _ (List.forall_mem_singleton.2 hp) (absurd ha)
  refine builds_part (builds_itemKey hgo item) builds_none fun p hp => ?_
  refine builds_bind (P := Plan.Saturated) ?_ fun q hq =>
    builds_bind (P := Plan.Saturated) ?_ fun r hr => builds_some hr
  · unfold directed
    split
    · exact hmarked _ _ rfl hp
    · exact builds_pure hp
  · unfold nullsPlaced
    split
    · exact hmarked _ _ rfl hq
    · exact hmarked _ _ rfl hq
    · exact builds_pure hq

theorem builds_pageValue (value : PageValue) :
    Builds operators own (pageValue value) Plan.Saturated := by
  unfold pageValue
  split
  · split
    · rename_i hliteral
      exact builds_pure (saturated_of_countLiteral? hliteral)
    · exact builds_throw rfl
  · exact builds_pure (Plan.saturated_parameter _ _)

theorem builds_source (hgo : Sound operators go) : ∀ source : Option Table,
    Builds operators own (Conversion.source go source) Plan.Saturated
  | none => builds_pure (Plan.saturated_values
      (List.forall_mem_singleton.2 (List.forall_mem_nil _)))
  | some t => builds_required _ _ (builds_descend hgo (.table t))

theorem builds_conditionClause (hgo : Sound operators go) (clause : Clause)
    (c : Option SqlAlgebra.Condition) :
    Offers operators own (whenPresent (fun c => required clause c.span (condition go c)) c)
      Plan.Saturated :=
  builds_whenPresent (fun _ => builds_required _ _ (builds_descend hgo _)) c

/-- The clauses of a SELECT compose to a saturated plan. -/
theorem builds_selectParts (hgo : Sound operators go) (q : Select) :
    Builds operators own (selectParts go q) fun parts => parts.plan.Saturated := by
  refine builds_bind (builds_source hgo q.source) fun _ hsource => ?_
  refine builds_bind (builds_conditionClause hgo .condition q.condition) fun _ hcondition => ?_
  refine builds_bind (builds_whenPresent (fun c : OrderClause => builds_required _ _
    (builds_nonEmpty (builds_kept (builds_itemKey hgo) c.items))) q.groupBy) fun _ hkeys => ?_
  refine builds_bind (builds_conditionClause hgo .having q.having) fun _ hhaving => ?_
  refine builds_bind (builds_whenPresent (P := fun r => ∀ p ∈ r.1, p.Saturated)
    (fun l : SelectList => builds_map (builds_required _ _
      (builds_nonEmpty (builds_selectItems hgo 0 l.items))) fun _ hps => hps) q.projections)
    fun _ hitems => ?_
  refine builds_bind (builds_whenPresent (fun c : OrderClause => builds_required _ _
    (builds_nonEmpty (builds_kept (builds_orderItem hgo) c.items))) q.orderBy) fun o horder => ?_
  refine builds_bind (builds_whenPresent builds_pageValue _) fun _ hoffset => ?_
  refine builds_bind (builds_whenPresent builds_pageValue _) fun _ hfetch => ?_
  refine builds_bind (builds_whenPresent (P := fun r => r.2.Saturated)
    (fun c : Combine => builds_map (builds_required _ _ (builds_descend hgo _)) fun _ hp => hp)
    q.combine) fun _ hright => ?_
  have hsorted : ∀ x ∈ o.getD [], x.Saturated := by
    cases o with
    | none => exact List.forall_mem_nil _
    | some ps => exact horder ps rfl
  refine builds_pure (SelectParts.saturated_sorted ?_ hsorted hoffset hfetch)
  refine SelectParts.saturated_combinedWith (SelectParts.saturated_projected ?_ hitems) hright
  refine SelectParts.saturated_filtered (SelectParts.saturated_grouped _ ?_ hkeys) hhaving
  exact SelectParts.saturated_filtered hsource hcondition

/-- A SELECT has a saturated plan. -/
theorem builds_select (hgo : Sound operators go) (q : Select) :
    Builds operators own (Conversion.select go q) Plan.Saturated :=
  builds_inScope (builds_map (builds_selectParts hgo q) fun _ hp => hp)

/-! ### Modifications -/

theorem builds_columns : ∀ cs : List Column,
    Builds operators own (columns cs) fun ps => ∀ p ∈ ps, p.Saturated
  | [] => builds_pure (List.forall_mem_nil _)
  | c :: cs => builds_bind (builds_column c) fun _ hp => builds_bind (builds_columns cs)
    fun _ hps => builds_pure (List.forall_mem_cons.2 ⟨hp, hps⟩)

theorem builds_assignments (hgo : Sound operators go) : ∀ as : List Assignment,
    Offers operators own (assignments go as)
      fun r => (∀ p ∈ r.1, p.Saturated) ∧ ∀ p ∈ r.2, p.Saturated
  | [] => builds_some ⟨List.forall_mem_nil _, List.forall_mem_nil _⟩
  | a :: as => by
    unfold assignments
    split
    · refine builds_bind (builds_column _) fun p hp => ?_
      refine builds_part (builds_descend hgo _) builds_none fun q hq => ?_
      refine builds_part (builds_assignments hgo as) builds_none fun r hr => ?_
      exact builds_some ⟨List.forall_mem_cons.2 ⟨hp, hr.1⟩, List.forall_mem_cons.2 ⟨hq, hr.2⟩⟩
    · exact builds_throw rfl

theorem builds_valuesRows (hgo : Sound operators go) (width : Nat) : ∀ rows : List ValuesRow,
    Offers operators own (valuesRows go width rows)
      fun rs => ∀ row ∈ rs, ∀ p ∈ row, p.Saturated
  | [] => builds_some (List.forall_mem_nil _)
  | row :: rows => by
    unfold valuesRows
    split
    · refine builds_part (builds_expressions hgo _ row.values) builds_none fun ps hps => ?_
      refine builds_part (builds_valuesRows hgo width rows) builds_none fun rs hrs => ?_
      exact builds_some (List.forall_mem_cons.2 ⟨hps.2, hrs⟩)
    · exact builds_throw rfl

theorem builds_insertSource (hgo : Sound operators go) (s : Insert) {listed : List Plan}
    (hlisted : ∀ p ∈ listed, p.Saturated) :
    Offers operators own (insertSource go s listed)
      fun r => (∀ p ∈ r.1, p.Saturated) ∧ r.2.Saturated := by
  unfold insertSource
  split
  · split
    · refine builds_part (builds_assignments hgo _) builds_none fun r hr => ?_
      exact builds_some ⟨hr.1, Plan.saturated_values (List.forall_mem_singleton.2 hr.2)⟩
    · exact builds_throw rfl
  · refine builds_bind (builds_required _ _ (builds_descend hgo _)) fun p hp => ?_
    exact builds_some ⟨hlisted, hp⟩
  · refine builds_part (builds_valuesRows hgo s.width s.rows) builds_none fun rs hrs => ?_
    exact builds_some ⟨hlisted, Plan.saturated_values hrs⟩

/-- An INSERT has a saturated plan. -/
theorem builds_insert (hgo : Sound operators go) (s : Insert) :
    Offers operators own (Conversion.insert go s) Plan.Saturated := by
  unfold Conversion.insert
  split
  · refine builds_inScope (builds_step (fun _ => rfl) ?_)
    refine builds_bind (builds_columns s.columns) fun listed hlisted => ?_
    refine builds_part (builds_insertSource hgo s hlisted) builds_none fun r hr => ?_
    exact builds_some (Plan.saturated_modify (Plan.saturated_scan _ _) hr.1
      (by rintro _ ⟨⟩; exact hr.2) (List.forall_mem_nil _) (by simp))
  · exact builds_throw rfl

theorem builds_unordered {m : ConvertM α} (modification : Modification)
    (orderBy : Option OrderClause) (limit : Option Limit) (span : Span)
    (hm : Builds operators own m P) :
    Builds operators own (unordered modification orderBy limit span m) P := by
  unfold unordered
  split
  · exact builds_throw rfl
  · exact hm

theorem builds_update (hgo : Sound operators go) (s : Update) :
    Offers operators own (update go s) Plan.Saturated := by
  refine builds_unordered _ _ _ _ (builds_inScope ?_)
  refine builds_bind (builds_required _ _ (builds_descend hgo _)) fun p hp => ?_
  refine builds_part (builds_assignments hgo _) builds_none fun r hr => ?_
  have hrest : Offers operators own (do
      let filter ← targetCondition go s.condition
      return some (Plan.modify .update p r.1 none r.2 filter)) Plan.Saturated :=
    builds_bind (builds_conditionClause hgo .condition s.condition) fun _ hcondition =>
      builds_some (Plan.saturated_modify hp hr.1 (by simp) hr.2 hcondition)
  dsimp only
  split
  · exact builds_bind (P := fun _ => False) (builds_throw rfl) fun _ h => h.elim
  · exact hrest

theorem builds_delete (hgo : Sound operators go) (s : Delete) :
    Builds operators own (Conversion.delete go s) Plan.Saturated := by
  refine builds_unordered _ _ _ _ (builds_inScope ?_)
  refine builds_bind (builds_required _ _ (builds_descend hgo _)) fun p hp => ?_
  exact builds_bind (builds_conditionClause hgo .condition s.condition) fun _ hcondition =>
    builds_pure (Plan.saturated_modify hp (List.forall_mem_nil _) (by simp) (List.forall_mem_nil _)
      hcondition)

/-- Every rule for statements builds saturated plans. -/
theorem builds_statementRule (hgo : Sound operators go) (rule : StatementRule) (st : Statement) :
    Offers operators own (rule.apply go st) Plan.Saturated := by
  unfold StatementRule.apply
  split
  · exact builds_mapSome (builds_select hgo _)
  · exact builds_insert hgo _
  · exact builds_update hgo _
  · exact builds_mapSome (builds_delete hgo _)
  · exact builds_throw rfl

/-! ### Dispatch -/

/-- A refusal is not about operands. -/
theorem builds_refuse (x : Segment) : Offers operators own (refuse x) Plan.Saturated :=
  builds_of_error _ (result_refuse x) fun _ _ h => by cases h

/-- A handler builds saturated plans if its rules and the descent do. -/
theorem builds_handled {ρ : Type} {rule : ρ → ConvertM (Option Plan)} (hgo : Sound operators go)
    (x : Segment) (hrule : ∀ r, Offers operators own (rule r) Plan.Saturated) :
    ∀ handler : Handler ρ, Offers operators own (handled handler rule go x) Plan.Saturated
  | .rule r => hrule r
  | .absent => builds_none
  | .redispatch => builds_descend hgo x
  | .unsupported => builds_refuse x

/-- Whatever the registry says, a segment builds a saturated plan or misuses an operator. -/
theorem Compiler.builds_convertEntered (c : Compiler) (hgo : Sound c.registry.operators go)
    (x : Segment) :
    Offers c.registry.operators (x.Misuses c.registry.operators) (c.convertEntered go x)
      Plan.Saturated := by
  cases x with
  | table t => exact builds_handled hgo _ (fun r => builds_tableRule hgo r t) _
  | projection p =>
    exact builds_handled hgo _ (fun r => builds_projectionRule hgo c.settings r p) _
  | expression e => exact builds_handled hgo _ (fun r => builds_exprRule hgo r e) _
  | statement st => exact builds_handled hgo _ (fun r => builds_statementRule hgo r st) _
  | select q =>
    unfold convertEntered
    dsimp only
    split
    · exact builds_mapSome (builds_select hgo q)
    · exact builds_none
    · exact builds_descend hgo _

end SqlAlgebra
