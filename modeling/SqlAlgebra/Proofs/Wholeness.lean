import SqlAlgebra.Proofs.Refusal
import SqlAlgebra.Proofs.Strictness

/-!
# Expressions are converted as a whole or not at all

Some kinds of segments may convert to nothing (`Registry.Silenced`). An expression that still
converts to a plan has then lost nothing: each of its parts has converted to a plan, each part
of these, and so on down to nested SELECTs, and the plan has these plans for its operands, as
many as the expression calls for (`Compiler.Whole`). The proof goes down the levels. A segment
converts to a plan only if the parts it needs do (`Compiler.exists_gives_of_mem_needs`), and
what a part converts to does not depend on the context. So the segment cannot tell the registry
from one in which no part converts to nothing, and there its plan has the form of its segment
(`exprRule_form`).
-/

namespace SqlAlgebra

open Conversion ConvertM

/-! ## Numbers of operands -/

/-- The number of operands of a call, or of items of a list. -/
def Plan.operandCount? : Plan → Option Nat
  | .call _ operands _ _ => some operands.length
  | .list items _ => some items.length
  | _ => none

/-- The number of operands in the plan of an expression, read off the expression alone. A test
by IS has one. COUNT without arguments has a star for its operand. A CASE has two for each WHEN,
one for ELSE, and one in front if there is something to compare with. -/
def Expr.operandCount? : Expr → Option Nat
  | .column _ | .literal .. | .parameter .. | .common .. => none
  | .binary _ operator _ _ => some (if (testNegated? operator).isSome then 1 else 2)
  | .negation .. | .subquery _ | .existence .. => some 1
  | .membership .. => some 2
  | .between .. => some 3
  | .list items _ => some items.length
  | .function _ arguments _ => some arguments.length
  | .aggregation a => some (if a.arguments.isEmpty then 1 else a.arguments.length)
  | .caseWhen operand whens _ _ _ => some (operand.toList.length + 2 * whens.length + 1)

theorem operandCount?_of_aggregateForm {K : PartSpec} {a : Aggregation} {p : Plan}
    (h : AggregateForm K a p) : p.operandCount? = (Expr.aggregation a).operandCount? := by
  cases h with
  | rows _ hnone => simp [Plan.operandCount?, Expr.operandCount?, hnone]
  | arguments hsome _ hoperands =>
    simp [Plan.operandCount?, Expr.operandCount?, hsome, hoperands.length_eq]

/-- The plan of an expression has as many operands as the expression calls for. -/
theorem operandCount?_of_exprForm {operators : OperatorTable} {K : PartSpec} {x : Expr}
    {p : Plan} (h : ExprForm operators K x p) : p.operandCount? = x.operandCount? := by
  cases h with
  | column c => rfl
  | literal value span => rfl
  | parameter index span => rfl
  | test hoperator hright hp => simp [Plan.operandCount?, Expr.operandCount?, hoperator]
  | binary htest hoperator harity hp hq => simp [Plan.operandCount?, Expr.operandCount?, htest]
  | negation hp => rfl
  | memberOfItems hright hp hq => rfl
  | memberOfQuery hp hq => rfl
  | between hp hq hr => rfl
  | list hitems => exact congrArg some hitems.length_eq.symm
  | function harity hoperands => exact congrArg some hoperands.length_eq.symm
  | aggregation h => exact operandCount?_of_aggregateForm h
  | subquery hp => rfl
  | existence hp => rfl
  | absence hp => rfl
  | caseWhen hsome hlength hparts hlast =>
    have hcount := hparts.length_eq
    rw [List.length_append, length_interleaved hlength] at hcount
    simp [Plan.operandCount?, Expr.operandCount?, ← hcount]

/-! ## Parts convert to plans -/

/-- Whether a segment can be a part of an expression. -/
def Segment.isOperand : Segment → Bool
  | .expression _ | .select _ => true
  | .table _ | .projection _ | .statement _ => false

/-- The parts of an expression are expressions and nested SELECTs. -/
theorem isOperand_of_mem_visits (x : Expr) : ∀ y ∈ x.visits, y.isOperand := by
  cases x with
  | binary left operator right span =>
    rw [Expr.visits]
    cases testNegated? operator <;> simp [Segment.isOperand]
  | membership left right negated span => cases right <;> simp [Expr.visits, Segment.isOperand]
  | caseWhen operand whens thens otherwise span =>
    intro y hy
    obtain ⟨e, -, rfl⟩ := List.mem_map.1 hy
    rfl
  | _ => simp [Expr.visits, Segment.isOperand]

/-- No SELECT needs an item of its select list. -/
theorem projection_not_mem_selectNeeds (q : Select) (p : Projection) :
    Segment.projection p ∉ q.needs := by
  simp [Select.needs, conditionVisits]

/-- Items of a select list are never needed. -/
theorem projection_not_mem_needs (x : Segment) (p : Projection) :
    Segment.projection p ∉ x.needs := by
  cases x with
  | table t =>
    cases t with
    | subquery query aliasName span =>
      have hneeds : (Segment.table (.subquery query aliasName span)).needs =
          (Table.subquery query aliasName span).visits := rfl
      rw [hneeds, Table.visits]
      cases query.select.projections <;> simp
    | _ => simp [Segment.needs, Segment.visits, Table.visits]
  | projection item =>
    cases item <;> simp [Segment.needs, Segment.visits, Projection.visits]
  | expression e => exact fun h => Bool.false_ne_true (isOperand_of_mem_visits e _ h)
  | statement st =>
    cases st with
    | select q => exact projection_not_mem_selectNeeds q p
    | _ =>
      simp [Segment.needs, Segment.visits, Statement.visits, assignmentVisits, conditionVisits]
  | select q => exact projection_not_mem_selectNeeds q p

namespace Compiler

variable {c : Compiler} {n : Nat} {s : Session} {p : Plan}

/-- With `n` levels left, a segment converts to a plan, whatever the context. -/
def Gives (c : Compiler) (n : Nat) (x : Segment) (p : Plan) : Prop :=
  ∀ s, ((c.convertWithin n x).outcome s).1 = .ok (some p)

/-- But for the items of a select list, what a segment converts to in one context it converts
to in every other. -/
theorem gives_of_result {x : Segment} (hx : ∀ item, x ≠ .projection item)
    (h : ((c.convertWithin n x).outcome s).1 = .ok (some p)) : c.Gives n x p := by
  intro t
  have htwins : x.effect.Twins s.context t.context := by
    cases x with
    | projection item => exact absurd rfl (hx item)
    | table _ | expression _ | statement _ | select _ => trivial
  have hsame := c.tracks_convertWithin False c.settings.maxDepth c.settings.maxDepth n n
    (Nat.le_refl n) (.inr ⟨rfl, rfl⟩) x s t htwins
  obtain ⟨o, hs, ht⟩ := hsame.resolve_left fun hl => hl.1
  cases o with
  | error e => cases h.symm.trans hs
  | ok o =>
    obtain rfl : some p = o := Except.ok.inj (h.symm.trans hs)
    exact ht

/-- If a segment converts to a plan, so does every part that it needs. -/
theorem exists_gives_of_mem_needs {x y : Segment} (hx : ¬ c.registry.Redispatches x)
    (h : ((c.convertWithin (n + 1) x).outcome s).1 = .ok (some p)) (hy : y ∈ x.needs) :
    ∃ q, c.Gives n y q := by
  have hrun : (c.convertWithin (n + 1) x).outcome s = (.ok (some p), _) := Prod.ext h rfl
  obtain ⟨u, v, hentered, -⟩ := convertWithin_eq_ok hrun
  obtain ⟨t, q, w, ht⟩ := c.demands_convertEntered hx u (some p) v hentered rfl y hy
  refine ⟨q, gives_of_result (fun item => ?_) (congrArg Prod.fst ht)⟩
  rintro rfl
  exact projection_not_mem_needs x item hy

/-! ## Whole expressions -/

/-- What is known of the operands of an expression, given what is known of expressions. It has
no tables and no select-list items for parts. -/
def operandSpec (c : Compiler) (n : Nat) (K : Expr → Plan → Prop) : PartSpec where
  expr := K
  select := fun q p => c.Gives n (.select q) p
  table := fun _ _ => False
  item := fun _ _ _ => False

/-- With `n` levels left, an expression converts to a plan, and so do its parts, down to nested
SELECTs. Its plan is put together from the plans of the parts, one operand for each. -/
def Whole (c : Compiler) : Nat → Expr → Plan → Prop
  | 0, _, _ => False
  | n + 1, x, p =>
    c.Gives (n + 1) (.expression x) p ∧
      ExprForm c.registry.operators (c.operandSpec n (Whole c n)) x p ∧
      p.operandCount? = x.operandCount?

/-- If all parts of an expression convert to plans, the descent into them meets no absence. -/
theorem reads_confined {K : Expr → Plan → Prop} {x : Expr}
    (hK : ∀ {y q}, c.Gives n (.expression y) q → K y q)
    (hparts : ∀ y ∈ x.visits, ∃ q, c.Gives n y q) :
    Reads (confined (c.convertWithin n) x.visits) (c.operandSpec n K) := by
  have hanswer : ∀ {y s o t}, (confined (c.convertWithin n) x.visits y).outcome s = (.ok o, t) →
      y ∈ x.visits ∧ ∃ q, o = some q ∧ c.Gives n y q := by
    intro y s o t h
    by_cases hy : y ∈ x.visits
    · rw [confined_of_mem hy] at h
      obtain ⟨q, hq⟩ := hparts y hy
      have hresult := hq s
      rw [h] at hresult
      exact ⟨hy, q, Except.ok.inj hresult, hq⟩
    · rw [confined_of_not_mem hy] at h
      cases h
  exact {
    keeps := keeps_confined (c.keeps_convertWithin n)
    expr := fun h => by
      obtain ⟨-, q, ho, hq⟩ := hanswer h
      exact ⟨q, ho, hK hq⟩
    select := fun h => (hanswer h).2
    table := fun h => absurd (isOperand_of_mem_visits x _ (hanswer h).1) Bool.false_ne_true
    item := fun h => absurd (isOperand_of_mem_visits x _ (hanswer h).1) Bool.false_ne_true }

/-- If no segment is handed back, expressions are converted as a whole. -/
theorem Gives.whole (hc : ∀ x, ¬ c.registry.Redispatches x) :
    ∀ {n : Nat} {x : Expr} {p : Plan}, c.Gives n (.expression x) p → c.Whole n x p := by
  intro n
  induction n with
  | zero =>
    intro x p h
    cases h {}
  | succ n ih =>
    intro x p h
    have hrun : (c.convertWithin (n + 1) (.expression x)).outcome {} = (.ok (some p), _) :=
      Prod.ext (h {}) rfl
    obtain ⟨u, v, hentered, -⟩ := convertWithin_eq_ok hrun
    have hreads : Reads (confined (c.convertWithin n) x.visits) (c.operandSpec n (c.Whole n)) :=
      reads_confined ih fun y hy =>
        exists_gives_of_mem_needs (hc (.expression x)) (h {}) hy
    rw [c.convertEntered_congr (.expression x) (agreeOn_confined _ x.visits)
      fun hx => absurd hx (hc _)] at hentered
    obtain ⟨r, hr⟩ := handled_eq_some (hc (.expression x)) hentered
    obtain ⟨q, hq, hform⟩ := exprRule_form hreads hr
    obtain rfl := Option.some.inj hq
    exact ⟨h, hform, operandCount?_of_exprForm hform⟩

end Compiler

/-! ## Registries with kinds that convert to nothing -/

/-- The standard registry, with any operators, after some kinds of any families and perhaps
nested SELECTs have been made to convert to nothing. -/
inductive Registry.Silenced : Registry → Prop
  | standard (operators : OperatorTable) :
    Silenced { Registry.standard with operators := operators }
  | table {r : Registry} (kind : SegmentKind) (h : Silenced r) :
    Silenced (r.withTable kind .absent)
  | projection {r : Registry} (kind : SegmentKind) (h : Silenced r) :
    Silenced (r.withProjection kind .absent)
  | expression {r : Registry} (kind : SegmentKind) (h : Silenced r) :
    Silenced (r.withExpression kind .absent)
  | statement {r : Registry} (kind : SegmentKind) (h : Silenced r) :
    Silenced (r.withStatement kind .absent)
  | select {r : Registry} (h : Silenced r) : Silenced { r with select := .absent }

theorem handler_register_absent_ne_redispatch {ρ : Type} {table : DispatchTable ρ}
    {kind k : SegmentKind} (h : table.handler k ≠ .redispatch) :
    (table.register kind .absent).handler k ≠ .redispatch := by
  unfold DispatchTable.handler DispatchTable.register
  dsimp only
  split
  · exact nofun
  · exact h

/-- A registry with some converters silenced hands no segment back. -/
theorem Registry.Silenced.not_redispatches {r : Registry} (hr : r.Silenced) (x : Segment) :
    ¬ r.Redispatches x := by
  induction hr with
  | standard operators => exact (Compiler.ruled_standard {} operators).not_redispatches x
  | table kind _ ih =>
    cases x with
    | table t => exact handler_register_absent_ne_redispatch ih
    | _ => exact ih
  | projection kind _ ih =>
    cases x with
    | projection p => exact handler_register_absent_ne_redispatch ih
    | _ => exact ih
  | expression kind _ ih =>
    cases x with
    | expression e => exact handler_register_absent_ne_redispatch ih
    | _ => exact ih
  | statement kind _ ih =>
    cases x with
    | statement st => exact handler_register_absent_ne_redispatch ih
    | _ => exact ih
  | select _ ih =>
    cases x with
    | select q => exact nofun
    | _ => exact ih

namespace Compiler

/-- Absence is all or nothing. Let any kinds of segments convert to nothing. If an expression
converts to a plan, in any context, then so do all its operands, down to nested SELECTs, and the
plan has the number of operands that the expression calls for. If any segment converts to a
plan, so does each of its parts, but for items of a select list, of GROUP BY and of ORDER BY. -/
theorem convert_whole (c : Compiler) (hc : c.registry.Silenced) (s : Session) (p : Plan) :
    (∀ x : Expr, ((c.convert (.expression x)).outcome s).1 = .ok (some p) →
      c.Whole (c.levelsLeft s.context) x p) ∧
    ∀ x : Segment, ((c.convert x).outcome s).1 = .ok (some p) →
      ∀ y ∈ x.needs, ∃ q, c.Gives (c.levelsLeft s.context - 1) y q := by
  refine ⟨fun x h => ?_, fun x h y hy => ?_⟩
  · have hgives : c.Gives (c.levelsLeft s.context) (.expression x) p :=
      gives_of_result (fun _ => nofun) h
    exact hgives.whole hc.not_redispatches
  · have hrun : ((c.convertWithin (c.levelsLeft s.context) x).outcome s).1 = .ok (some p) := h
    cases hlevels : c.levelsLeft s.context with
    | zero =>
      rw [hlevels] at hrun
      cases hrun
    | succ n =>
      rw [hlevels] at hrun
      exact exists_gives_of_mem_needs (hc.not_redispatches x) hrun hy

/-- A compiler for which NOT and nested SELECTs convert to nothing. -/
def hushed : Compiler where
  registry := { Registry.standard.withExpression .negation .absent with select := .absent }

/-- `CASE WHEN condition THEN ? END`. -/
def caseWith (condition : Expr) : Expr :=
  .caseWhen none [condition] [.parameter 1 .zero] none .zero

/-- A CASE without NOT is whole, with its two parts and a null for ELSE. A CASE with NOT in its
condition is not cut down to what is left, but converts to nothing. -/
theorem convert_whole_caseWith :
    hushed.Whole (hushed.levelsLeft {}) (caseWith (.parameter 0 .zero))
      (.call (.core .searchedCase)
        [.parameter 0 .zero, .parameter 1 .zero, .literal .null .zero] false .zero) ∧
    ((hushed.convert (.expression (caseWith (.negation (.parameter 0 .zero) .zero)))).outcome
      {}).1 = .ok none :=
  ⟨(convert_whole hushed (.select (.expression .negation (.standard .standard))) {} _).1 _ rfl,
    rfl⟩

end Compiler

end SqlAlgebra
