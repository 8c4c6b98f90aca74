import SqlAlgebra.Proofs.Likeness
import SqlAlgebra.Proofs.Restoration
import SqlAlgebra.Proofs.Spelled

/-!
# The spelling of operators and functions

An operator text or a function name counts only through its normal form: the rules for binary
operations and for function calls look at nothing else (`binary_congr`, `function_congr`). So a
segment is converted like its normal form (`Compiler.alike_spelled`), except that the failure
which quotes an operator quotes it as it was written. For two spellings at the top of a segment
this can be said exactly: the results are the same, or both are the refusal of the operator,
each with its own text (`alikeBut_binary`). `Compiler.convert_spelling` collects what
follows for every registry and every state.
-/

namespace SqlAlgebra

open Text

/-! ## Texts with the same normal form -/

section Congruence

variable {a b : String} (h : normalForm a = normalForm b)

include h

/-- A binary operator is found through its normal form. -/
theorem OperatorTable.resolveBinary?_congr (table : OperatorTable) :
    table.resolveBinary? a = table.resolveBinary? b := by
  rw [resolveBinary?, resolveBinary?, h]

theorem OperatorTable.resolveFunction_congr (table : OperatorTable) :
    table.resolveFunction a = table.resolveFunction b := by
  rw [resolveFunction, resolveFunction, h]

theorem OperatorTable.hasFunction_congr (table : OperatorTable) :
    table.hasFunction a = table.hasFunction b := by
  rw [hasFunction, hasFunction, h]

namespace Conversion

/-- Whether a text is IS or IS NOT is told by its normal form. -/
theorem testNegated?_congr : testNegated? a = testNegated? b := by
  rw [testNegated?, testNegated?, h]

/-- Two texts of one operator make the same operation, or both make none, and then each is
quoted. -/
theorem binary_congr (operators : OperatorTable) (left right : Expr) (span : Span) :
    (∀ go, binary operators go left a right span = binary operators go left b right span) ∨
    ∀ go, binary operators go left a right span =
        throw (.unsupportedOperator a left.kind right.kind span) ∧
      binary operators go left b right span =
        throw (.unsupportedOperator b left.kind right.kind span) := by
  unfold binary
  rw [testNegated?_congr h, operators.resolveBinary?_collapsed, operators.resolveBinary?_collapsed,
    operators.resolveBinary?_congr h]
  cases testNegated? b with
  | some negated =>
    cases hop : literalTest? negated right with
    | none => exact .inr fun _ => ⟨by simp only [hop], by simp only [hop]⟩
    | some op => exact .inl fun _ => by simp only [hop]
  | none =>
    cases hop : operators.resolveBinary? b with
    | none => exact .inr fun _ => ⟨rfl, rfl⟩
    | some op => exact .inl fun _ => rfl

/-- Two texts of one function make the same call. -/
theorem function_congr (operators : OperatorTable) (go : Descent) (arguments : List Expr)
    (span : Span) :
    function operators go a arguments span = function operators go b arguments span := by
  rw [function, function, operators.resolveFunction_congr h]

end Conversion

end Congruence

/-! ## Segments and their normal forms -/

open Conversion ConvertM

/-- A binary operation and its normal form, taken by the rule for binary operations. -/
theorem binary_normalForm (operators : OperatorTable) (left : Expr) (operator : String)
    (right : Expr) (span : Span) :
    (∀ go, binary operators go left.spelled (normalForm operator) right.spelled span =
      binary operators (go ∘ Segment.spelled) left operator right span) ∨
    ∃ e₁ e₂ : ConvertError, e₁.spelled = e₂.spelled ∧ ∀ go,
      binary operators go left.spelled (normalForm operator) right.spelled span = throw e₁ ∧
      binary operators go left operator right span = throw e₂ := by
  have hnormal := normalForm_normalForm operator
  simp only [binary_spelled]
  rcases binary_congr hnormal operators left right span with h | h
  · exact .inl fun go => h _
  · refine .inr ⟨_, _, ?_, fun go => ⟨(h _).1, (h go).2⟩⟩
    rw [ConvertError.spelled, ConvertError.spelled, hnormal]

/-- There is one rule for each kind of expression. -/
theorem ExprRule.kind_inj {r r' : ExprRule} (h : r.kind = r'.kind) : r = r' := by
  cases r <;> cases r' <;> first | rfl | cases h

/-- A rule for another kind does not look at the expression. -/
theorem exprRule_of_kind_ne {rule : ExprRule} {x : Expr} (h : rule.kind ≠ x.kind)
    (operators : OperatorTable) (go : Descent) :
    rule.apply operators go x = throw (.converterMismatch rule.kind x.kind) := by
  unfold ExprRule.apply
  split <;> first | exact absurd rfl h | rfl

/-- A rule takes an expression in normal form as it takes the expression, except that a failure
quotes the operator as it stands there. -/
theorem exprRule_spelled (operators : OperatorTable) (rule : ExprRule) (x : Expr) :
    (∀ go, rule.apply operators go x.spelled = rule.apply operators (go ∘ Segment.spelled) x) ∨
    ∃ e₁ e₂ : ConvertError, e₁.spelled = e₂.spelled ∧ ∀ go,
      rule.apply operators go x.spelled = throw e₁ ∧ rule.apply operators go x = throw e₂ := by
  by_cases h : rule.kind = x.kind
  · cases x with
    | column c =>
      obtain rfl : rule = .column := ExprRule.kind_inj h
      exact .inl fun _ => rfl
    | literal value span =>
      obtain rfl : rule = .literal := ExprRule.kind_inj h
      exact .inl fun _ => rfl
    | parameter index span =>
      obtain rfl : rule = .parameter := ExprRule.kind_inj h
      exact .inl fun _ => rfl
    | binary left operator right span =>
      obtain rfl : rule = .binary := ExprRule.kind_inj h
      exact binary_normalForm operators left operator right span
    | negation operand span =>
      obtain rfl : rule = .negation := ExprRule.kind_inj h
      exact .inl fun _ => rfl
    | membership left right negated span =>
      obtain rfl : rule = .membership := ExprRule.kind_inj h
      exact .inl fun go => membership_spelled go left right negated span
    | between operand low high negated span =>
      obtain rfl : rule = .between := ExprRule.kind_inj h
      exact .inl fun go => between_spelled go operand low high negated span
    | list items span =>
      obtain rfl : rule = .list := ExprRule.kind_inj h
      rw [Expr.spelled, exprsSpelled_eq]
      exact .inl fun go => list_spelled go items span
    | function name arguments span =>
      obtain rfl : rule = .function := ExprRule.kind_inj h
      rw [Expr.spelled, exprsSpelled_eq]
      refine .inl fun go => ?_
      exact (function_congr (normalForm_normalForm name) operators go _ span).trans
        (function_spelled go operators name arguments span)
    | aggregation call =>
      obtain rfl : rule = .aggregation := ExprRule.kind_inj h
      exact .inl fun go => aggregation_spelled go call
    | subquery query =>
      obtain rfl : rule = .subquery := ExprRule.kind_inj h
      exact .inl fun go => scalarSubquery_spelled go query
    | existence query negated span =>
      obtain rfl : rule = .existence := ExprRule.kind_inj h
      exact .inl fun go => existence_spelled go query negated span
    | caseWhen operand whens thens otherwise span =>
      obtain rfl : rule = .caseWhen := ExprRule.kind_inj h
      rw [Expr.spelled, exprSpelled?_eq, exprsSpelled_eq, exprsSpelled_eq, exprSpelled?_eq]
      exact .inl fun go => caseWhen_spelled go operand whens thens otherwise span
    | common text span => cases rule <;> cases h
  · have h' : rule.kind ≠ x.spelled.kind := by rwa [x.kind_spelled]
    exact .inl fun go => by rw [exprRule_of_kind_ne h, exprRule_of_kind_ne h', x.kind_spelled]

/-- A rule takes an item in normal form as it takes the item, with the descent into normal forms. -/
theorem projectionRule_spelled (settings : CompilerSettings) (go : Descent)
    (rule : ProjectionRule) (p : Projection) :
    rule.apply settings go p.spelled = rule.apply settings (go ∘ Segment.spelled) p := by
  cases p with
  | aggregation call aliasName span =>
    cases rule with
    | aggregation =>
      change aggregationItem settings go call.spelled aliasName span = _
      rw [aggregationItem, aggregation_spelled]
      rfl
    | _ => rfl
  | subquery query aliasName span =>
    cases rule with
    | subquery =>
      change subqueryItem settings go query.spelled aliasName span = _
      rw [subqueryItem, scalarSubquery_spelled]
      rfl
    | _ => rfl
  | column _ _ _ | expression _ _ _ | shorthand _ _ => cases rule <;> rfl

theorem tableRule_spelled (go : Descent) (rule : TableRule) (t : Table) :
    rule.apply go t.spelled = rule.apply (go ∘ Segment.spelled) t := by
  cases t with
  | join left right type natural condition sharedColumns span =>
    rw [Table.spelled, exprSpelled?_eq]
    cases rule with
    | join => exact congrArg (some <$> ·) (joinTable_spelled go ..)
    | _ => rfl
  | subquery query aliasName span =>
    cases rule with
    | subquery => exact subqueryTable_spelled go query aliasName span
    | _ => rfl
  | simple _ | deleteMulti _ _ _ => cases rule <;> rfl

theorem statementRule_spelled (go : Descent) (rule : StatementRule) (st : Statement) :
    rule.apply go st.spelled = rule.apply (go ∘ Segment.spelled) st := by
  cases st with
  | select q =>
    cases rule with
    | select => exact congrArg (some <$> ·) (select_spelled go q)
    | _ => rfl
  | insert s =>
    cases rule with
    | insert => exact insert_spelled go s
    | _ => rfl
  | update s =>
    cases rule with
    | update => exact update_spelled go s
    | _ => rfl
  | delete s =>
    cases rule with
    | delete => exact congrArg (some <$> ·) (delete_spelled go s)
    | _ => rfl

namespace Compiler

variable (c : Compiler)

/-- A segment that has been entered is converted like its normal form if its parts are. -/
theorem alike_convertEntered_spelled {go : Descent}
    (hgo : ∀ x, Alike ConvertError.spelled (go x.spelled) (go x)) (x : Segment) :
    Alike ConvertError.spelled (c.convertEntered go x.spelled) (c.convertEntered go x) := by
  cases x with
  | table t =>
    simp only [convertEntered, Segment.spelled, Table.kind_spelled]
    refine alike_handled _ (fun r => ?_) (hgo (.table t)) t.kind_spelled t.span_spelled
    rw [tableRule_spelled]
    exact (program_tableRule r t).alike hgo
  | projection p =>
    simp only [convertEntered, Segment.spelled, Projection.kind_spelled]
    refine alike_handled _ (fun r => ?_) (hgo (.projection p)) p.kind_spelled p.span_spelled
    rw [projectionRule_spelled]
    exact (program_projectionRule c.settings r p).alike hgo
  | expression x =>
    simp only [convertEntered, Segment.spelled, Expr.kind_spelled]
    refine alike_handled _ (fun r => ?_) (hgo (.expression x)) x.kind_spelled x.span_spelled
    rcases exprRule_spelled c.registry.operators r x with h | ⟨e₁, e₂, he, h⟩
    · rw [h]
      exact (program_exprRule c.registry.operators r x (e := .quiet)).alike hgo
    · rw [(h go).1, (h go).2]
      exact alike_throw he
  | statement st =>
    simp only [convertEntered, Segment.spelled, Statement.kind_spelled]
    refine alike_handled _ (fun r => ?_) (hgo (.statement st)) st.kind_spelled st.span_spelled
    rw [statementRule_spelled]
    exact (program_statementRule r st (e := .quiet)).alike hgo
  | select q =>
    unfold convertEntered Segment.spelled
    dsimp only
    split
    · rw [select_spelled]
      exact (program_map some (program_nestedSelect q (e := .quiet))).alike hgo
    · exact alike_pure none
    · exact hgo (.select q)

/-- A segment is converted like its normal form. -/
theorem alike_spelled : ∀ (levels : Nat) (x : Segment),
    Alike ConvertError.spelled (c.convertWithin levels x.spelled) (c.convertWithin levels x)
  | 0, _ => alike_throw rfl
  | levels + 1, x => c.alike_convertWithin_succ x.kind_spelled
    (c.alike_convertEntered_spelled (alike_spelled levels) x)

end Compiler

/-! ## Two spellings of one operator or function -/

/-- Conversions that are alike, or that fail from every state, each with a failure of its
own. -/
def AlikeBut (e₁ e₂ : ConvertError) (m₁ m₂ : ConvertM (Option Plan)) : Prop :=
  Alike id m₁ m₂ ∨ Ends m₁ (· = .error e₁) ∧ Ends m₂ (· = .error e₂)

/-- Conversions that are alike but for two failures have one result, or these two failures. -/
theorem AlikeBut.result {e₁ e₂ : ConvertError} {m₁ m₂ : ConvertM (Option Plan)}
    (h : AlikeBut e₁ e₂ m₁ m₂) (s : Session) :
    (m₁.outcome s).1 = (m₂.outcome s).1 ∨
      (m₁.outcome s).1 = .error e₁ ∧ (m₂.outcome s).1 = .error e₂ :=
  h.imp (fun halike => halike.result_eq s) fun hends => ⟨hends.1 s, hends.2 s⟩

section TwoTexts

variable {a b : String} (h : normalForm a = normalForm b) (operators : OperatorTable)
  {go : Descent} (hgo : ∀ x, Alike id (go x) (go x))

include h hgo

/-- Two spellings of an operator are converted alike, or both are refused, and then each is
quoted. -/
theorem alikeBut_binary (left right : Expr) (span : Span) :
    AlikeBut (.unsupportedOperator a left.kind right.kind span)
      (.unsupportedOperator b left.kind right.kind span)
      (binary operators go left a right span) (binary operators go left b right span) := by
  rcases binary_congr h operators left right span with heq | hrefused
  · rw [heq]
    exact .inl ((program_binary (e := .quiet) operators left b right span).alike hgo)
  · rw [(hrefused go).1, (hrefused go).2]
    exact .inr ⟨fun _ => rfl, fun _ => rfl⟩

/-- Two spellings of a function are converted alike. -/
theorem alike_function (arguments : List Expr) (span : Span) :
    Alike id (function operators go a arguments span)
      (function operators go b arguments span) := by
  rw [function_congr h]
  exact (program_function (e := .quiet) operators b arguments span).alike hgo

end TwoTexts

namespace Compiler

variable (c : Compiler)

/-- Two segments of one kind are converted alike, but for two failures, if they are once they have
been entered. -/
theorem alikeBut_convertWithin_succ {e₁ e₂ : ConvertError} {levels : Nat} {x y : Segment}
    (hkind : x.kind = y.kind)
    (h : AlikeBut e₁ e₂ (c.convertEntered (c.convertWithin levels) x)
      (c.convertEntered (c.convertWithin levels) y)) :
    AlikeBut e₁ e₂ (c.convertWithin (levels + 1) x) (c.convertWithin (levels + 1) y) := by
  rcases h with halike | ⟨hx, hy⟩
  · exact .inl (c.alike_convertWithin_succ hkind halike)
  · refine .inr ⟨fun s => ?_, fun s => ?_⟩
    · rw [outcome_convertWithin_succ]
      exact hx _
    · rw [outcome_convertWithin_succ]
      exact hy _

section TwoSpellings

variable {a b : String} (h : normalForm a = normalForm b)

include h

/-- With any number of levels, two spellings of an operator are converted alike, or each is quoted
in the refusal. -/
theorem alikeBut_convertWithin_binary (left right : Expr) (span : Span) : ∀ levels,
    AlikeBut (.unsupportedOperator a left.kind right.kind span)
      (.unsupportedOperator b left.kind right.kind span)
      (c.convertWithin levels (.expression (.binary left a right span)))
      (c.convertWithin levels (.expression (.binary left b right span)))
  | 0 => .inl (alike_throw rfl)
  | levels + 1 => by
    refine c.alikeBut_convertWithin_succ rfl ?_
    have ih := alikeBut_convertWithin_binary left right span levels
    unfold convertEntered
    dsimp only [Expr.kind]
    cases c.registry.expressions.handler .binaryOperation with
    | rule r =>
      cases r with
      | binary =>
        dsimp only [handled, ExprRule.apply]
        exact alikeBut_binary h c.registry.operators (c.alike_convertWithin levels) left right span
      | _ => exact .inl (alike_throw rfl)
    | absent => exact .inl (alike_pure none)
    | redispatch => exact ih
    | unsupported => exact .inl (alike_refuse rfl rfl)

/-- With any number of levels, two spellings of a function are converted alike. -/
theorem alike_convertWithin_function (arguments : List Expr) (span : Span) : ∀ levels,
    Alike id (c.convertWithin levels (.expression (.function a arguments span)))
      (c.convertWithin levels (.expression (.function b arguments span)))
  | 0 => alike_throw rfl
  | levels + 1 => by
    refine c.alike_convertWithin_succ rfl (alike_handled _ (fun r => ?_)
      (alike_convertWithin_function arguments span levels) rfl rfl)
    cases r with
    | function =>
      exact alike_function h c.registry.operators (c.alike_convertWithin levels) arguments span
    | _ => exact alike_throw rfl

end TwoSpellings

/-- An expression leaves the context as it was. -/
theorem context_convert_expression (x : Expr) (s : Session) :
    ((c.convert (.expression x)).outcome s).2.context = s.context :=
  c.keeps_convert (.expression x) s

/-- The spelling of operators and functions does not matter. Two spellings of one binary operator
give the same result, or each is quoted in the refusal of the operator; two spellings of one
function give the same result; and segments that differ in spelling alone, at any depth, have
the same result up to the spelling of the operator that is quoted. In each case the contexts
afterwards are the same. Taking the normal form again or collapsing the blanks beforehand makes
no difference, and neither does it to whether a text is a test by IS or IS NOT and to what it
is looked up as. -/
theorem convert_spelling (s : Session) :
    (∀ (left right : Expr) (span : Span) (a b : String), normalForm a = normalForm b →
      let first := (c.convert (.expression (.binary left a right span))).outcome s
      let second := (c.convert (.expression (.binary left b right span))).outcome s
      (first.1 = second.1 ∨
        first.1 = .error (.unsupportedOperator a left.kind right.kind span) ∧
          second.1 = .error (.unsupportedOperator b left.kind right.kind span)) ∧
      first.2.context = second.2.context) ∧
    (∀ (arguments : List Expr) (span : Span) (a b : String), normalForm a = normalForm b →
      let first := (c.convert (.expression (.function a arguments span))).outcome s
      let second := (c.convert (.expression (.function b arguments span))).outcome s
      first.1 = second.1 ∧ first.2.context = second.2.context) ∧
    (∀ x y : Segment, x.spelled = y.spelled →
      let first := (c.convert x).outcome s
      let second := (c.convert y).outcome s
      first.1.mapError ConvertError.spelled = second.1.mapError ConvertError.spelled ∧
        first.2.context = second.2.context) ∧
    (∀ text, normalForm (normalForm text) = normalForm text ∧
      normalForm (collapsed text) = normalForm text) ∧
    ∀ a b, normalForm a = normalForm b →
      testNegated? a = testNegated? b ∧
      c.registry.operators.resolveBinary? a = c.registry.operators.resolveBinary? b ∧
      c.registry.operators.resolveFunction a = c.registry.operators.resolveFunction b ∧
      c.registry.operators.hasFunction a = c.registry.operators.hasFunction b := by
  refine ⟨fun left right span a b h => ?_, fun arguments span a b h => ?_, fun x y h => ?_,
    fun text => ⟨normalForm_normalForm text, normalForm_collapsed text⟩, fun a b h => ?_⟩
  · refine ⟨?_, ?_⟩
    · exact (c.alikeBut_convertWithin_binary h left right span (c.levelsLeft s.context)).result s
    · rw [context_convert_expression, context_convert_expression]
  · have halike := c.alike_convert (c.alike_convertWithin_function h arguments span)
    exact ⟨halike.result_eq s, (halike s s rfl).2⟩
  · have halike : Alike ConvertError.spelled (c.convert x) (c.convert y) :=
      c.alike_convert fun levels => by
        refine (c.alike_spelled levels x).symm.trans ?_
        rw [h]
        exact c.alike_spelled levels y
    exact halike s s rfl
  · exact ⟨testNegated?_congr h, OperatorTable.resolveBinary?_congr h _,
      OperatorTable.resolveFunction_congr h _, OperatorTable.hasFunction_congr h _⟩

/-- `a is nOt NULL`, with a no-break space and two blanks, is a test like `a IS NOT NULL`. -/
theorem convert_spelling_isNot :
    ((({} : Compiler).convert (.expression (.binary (.column { name := "a" })
      "is\u00a0  nOt" (.literal .null .zero) .zero))).outcome {}).1 =
    .ok (some (.call (.core .isNotNull) [.identifier ["a"] .zero] false .zero)) := by
  have h := ((convert_spelling {} {}).1 (.column { name := "a" }) (.literal .null .zero) .zero
    "is\u00a0  nOt" "IS NOT" (by decide +kernel)).1
  rcases h with h | ⟨-, h⟩
  · exact h
  · cases h

end Compiler

end SqlAlgebra
