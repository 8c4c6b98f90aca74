import SqlAlgebra.Proofs.Failure

/-!
# What converts to nothing

Most rules give nothing when a part of their segment does, some lists drop such parts, and a
clause left with nothing is a failure. With the standard rules none of this happens, except
for hollow tables: a table is converted to nothing only if it is hollow
(`AbsenceRules.hollow`), and then it is converted to nothing unless the levels run out
(`AbsenceRules.absent`). So every item of a list has a plan of its own
(`AbsenceRules.items`), and a clause is reported to be empty only if a hollow table or a list
without items stands in it (`AbsenceRules.clause`). `Compiler.convert_absence` says so for
every segment and every state a conversion may start from.
-/

namespace SqlAlgebra

open Conversion ConvertM

/-! ## Hollow tables -/

namespace Segment

/-- Only derived tables are hollow. -/
theorem eq_subquery_of_hollow {x : Segment} (hx : x.hollow) :
    ∃ query aliasName span, x = .table (.subquery query aliasName span) := by
  cases x with
  | table t =>
    cases t with
    | subquery query aliasName span => exact ⟨query, aliasName, span, rfl⟩
    | simple t => cases hx
    | join left right type natural condition columns span => cases hx
    | deleteMulti targets relation span => cases hx
  | projection p => cases hx
  | expression e => cases hx
  | statement st => cases hx
  | select q => cases hx

/-- The parts of a hollow segment are hollow. -/
theorem hollow_of_mem_visits {x p : Segment} (hx : x.hollow) (hp : p ∈ x.visits) :
    p.hollow := by
  obtain ⟨query, aliasName, span, rfl⟩ := eq_subquery_of_hollow hx
  obtain ⟨⟨projections, source, condition, groupBy, having, orderBy, page, combine, s⟩, t⟩ :=
    query
  cases projections with
  | some l => cases hx
  | none =>
    obtain ⟨table, htable, rfl⟩ := List.mem_map.1 hp
    obtain rfl := Option.mem_toList.1 htable
    exact hx

/-- What a hollow table leads to is hollow. -/
theorem Reaches.hollow {x y : Segment} (h : x.Reaches y) (hx : x.hollow) : y.hollow := by
  induction h with
  | refl => exact hx
  | tail _ hp ih => exact hollow_of_mem_visits ih hp

/-- A hollow segment has no clause that could lack anything. -/
theorem not_lacks_of_hollow {x : Segment} {clause : Clause} {span : Span} (hx : x.hollow) :
    ¬x.Lacks clause span := by
  obtain ⟨query, aliasName, s, rfl⟩ := eq_subquery_of_hollow hx
  intro h
  cases h with
  | source h => cases h
  | selectList h => cases h
  | groupBy h => cases h
  | orderBy h => cases h
  | target h => cases h

/-- A hollow segment fails for want of levels only. -/
theorem Raises.eq_maxRecursion {operators : OperatorTable} {x : Segment} {e : ConvertError}
    (h : x.Raises operators e) (hx : x.hollow) : ∃ limit, e = .maxRecursion limit := by
  have hlacks : ∀ clause span, ¬x.Lacks clause span := fun _ _ => not_lacks_of_hollow hx
  obtain ⟨query, aliasName, s, rfl⟩ := eq_subquery_of_hollow hx
  cases h with
  | level x limit => exact ⟨limit, rfl⟩
  | refusal hkind path => cases hkind
  | clause h => exact absurd h (hlacks _ _)
  | aggregate h defect => cases h
  | ordinal h index span => cases h
  | page h value span => cases h

end Segment

/-! ## Items -/

/-- The plan of a SELECT has an expression for each item of the select list, and a key for each
item of GROUP BY and of ORDER BY. -/
def Select.KeepsItems (q : Select) (plan : Plan) : Prop :=
  ∃ parts : SelectParts, plan = parts.plan ∧
    parts.projections.map (fun l => l.1.length) = q.projections.map (fun l => l.items.length) ∧
    parts.groupBy.map List.length = q.groupBy.map (fun c => c.items.length) ∧
    parts.orderBy.length = (q.orderBy.map fun c => c.items.length).getD 0

/-- A select list has one plan for each item. -/
theorem length_of_itemsForm {K : PartSpec} {ordinal : Nat} {ps : List Projection}
    {plans : List Plan} (h : ItemsForm K ordinal ps plans) : plans.length = ps.length := by
  induction h with
  | nil => rfl
  | cons _ _ ih => exact congrArg Nat.succ ih

theorem map_eq_map_of_rel {α β γ : Type} {R : α → β → Prop} {f : α → γ} {g : β → γ}
    {x : Option α} {y : Option β} (h : Option.Rel R x y) (hR : ∀ a b, R a b → g b = f a) :
    y.map g = x.map f := by
  cases h with
  | none => rfl
  | some h => exact congrArg some (hR _ _ h)

/-- The plan of a SELECT keeps the numbers of items of its clauses. -/
theorem keepsItems_of_selectForm {K : PartSpec} {q : Select} {plan : Plan}
    (h : SelectForm K q plan) : q.KeepsItems plan := by
  obtain ⟨hparts⟩ := h
  obtain ⟨keys, hkeys, horder⟩ := hparts.orderBy
  refine ⟨_, rfl, ?_, ?_, ?_⟩
  · exact map_eq_map_of_rel hparts.projections fun _ _ h => length_of_itemsForm h.2.1
  · exact map_eq_map_of_rel hparts.groupBy fun _ _ h => h.2.length_eq.symm
  · have hlength := map_eq_map_of_rel (g := List.length) (f := fun c => c.items.length) horder
      fun _ _ h => h.2.length_eq.symm
    rw [hkeys, ← hlength]
    cases keys <;> rfl

/-- Nothing is known about the parts. -/
def PartSpec.anything : PartSpec where
  expr _ _ := True
  table _ _ := True
  select _ _ := True
  item _ _ _ := True

theorem anything_closed (settings : CompilerSettings) (operators : OperatorTable) :
    PartSpec.anything.Closed settings operators where
  expr _ := trivial
  table _ := trivial
  select _ := trivial
  item _ := trivial

/-! ## Conversions -/

/-- The clauses that always have something in them. -/
def Clause.isFilled : Clause → Bool
  | .condition | .having | .joinCondition | .combine | .statement => true
  | _ => false

/-- The clauses that can have nothing in them are not those that are always filled. -/
theorem Segment.Lacks.isFilled {x : Segment} {clause : Clause} {span : Span}
    (h : x.Lacks clause span) : clause.isFilled = false := by
  cases h <;> rfl

/-- What is said about absence by the result of converting a segment. -/
structure AbsenceRules (x : Segment) (result : Except ConvertError (Option Plan)) : Prop where
  hollow : result = .ok none → x.hollow
  absent : x.hollow → result = .ok none ∨ ∃ limit, result = .error (.maxRecursion limit)
  items : ∀ q plan, x.query? = some q → result = .ok (some plan) → q.KeepsItems plan
  clause : ∀ clause span, result = .error (.emptyClause clause span) →
    clause.isFilled = false ∧ ∃ y, x.Reaches y ∧ y.Lacks clause span

namespace Compiler

variable (settings : CompilerSettings) (operators : OperatorTable)

/-- The plan of a SELECT, at the top or nested, comes from its clauses. -/
theorem exists_outcome_selectWithin {x : Segment} {q : Select} {plan : Plan} {n : Nat}
    {s : Session} (hx : x.query? = some q)
    (h : (((standard settings operators).convertWithin n x).outcome s).1 = .ok (some plan)) :
    ∃ levels u v, (Conversion.select ((standard settings operators).convertWithin levels)
      q).outcome u = (.ok plan, v) := by
  cases n with
  | zero => cases h
  | succ levels =>
    obtain ⟨_, _, hrun, -⟩ := convertWithin_eq_ok (Prod.ext h rfl)
    unfold Segment.query? at hx
    split at hx
    · obtain rfl := Option.some.inj hx
      obtain ⟨p, hp, hsome⟩ := outcome_map_eq_ok hrun
      obtain rfl := Option.some.inj hsome
      exact ⟨levels, _, _, hp⟩
    · obtain rfl := Option.some.inj hx
      obtain ⟨p, hp, hsome⟩ := outcome_map_eq_ok hrun
      obtain rfl := Option.some.inj hsome
      exact ⟨levels, _, _, hp⟩
    · cases hx

/-- The plan of a segment that stands for a SELECT comes out of the rule for SELECTs. -/
theorem exists_outcome_select {x : Segment} {q : Select} {plan : Plan} {s : Session}
    (hx : x.query? = some q)
    (h : (((standard settings operators).convert x).outcome s).1 = .ok (some plan)) :
    ∃ levels u v, (Conversion.select ((standard settings operators).convertWithin levels)
      q).outcome u = (.ok plan, v) :=
  exists_outcome_selectWithin settings operators hx h

/-- A SELECT that converts keeps the numbers of items of its clauses. -/
theorem keepsItems_convert {x : Segment} {q : Select} {plan : Plan} {s : Session}
    (hx : x.query? = some q)
    (h : (((standard settings operators).convert x).outcome s).1 = .ok (some plan)) :
    q.KeepsItems plan := by
  obtain ⟨levels, _, _, hselect⟩ := exists_outcome_select settings operators hx h
  have hgo := reads_convertWithin (anything_closed settings operators) levels
  exact keepsItems_of_selectForm (select_form hgo hselect)

/-- The rules of absence hold of every result, from every state. -/
theorem absenceRules_convert (x : Segment) (s : Session) :
    AbsenceRules x (((standard settings operators).convert x).outcome s).1 := by
  have hresult := result_convert operators settings x s
  refine ⟨fun h => ?_, fun hx => ?_, fun q plan hq h => ?_, fun clause span h => ?_⟩
  · rw [h] at hresult
    have hsome : (none : Option Plan).isSome = !x.hollow := hresult
    simpa using hsome
  · rcases hr : (((standard settings operators).convert x).outcome s).1 with e | o
    · rw [hr] at hresult
      obtain ⟨y, hy, he⟩ := hresult
      obtain ⟨limit, rfl⟩ := he.eq_maxRecursion (hy.hollow hx)
      exact .inr ⟨limit, rfl⟩
    · rw [hr] at hresult
      have hnone : o.isSome = !x.hollow := hresult
      rw [hx] at hnone
      cases o with
      | none => exact .inl rfl
      | some plan => cases hnone
  · exact keepsItems_convert settings operators hq h
  · rw [h] at hresult
    obtain ⟨y, hy, he⟩ := hresult
    cases he with
    | clause hlacks => exact ⟨hlacks.isFilled, y, hy, hlacks⟩

/-- With the standard rules over any operators, only hollow tables convert to nothing, no item
is dropped, and only a clause with a hollow table or without items is reported as empty. The
last part is about whole statements, which are also refused if nothing is left of them. -/
theorem convert_absence :
    (∀ (x : Segment) (s : Session),
      AbsenceRules x (((standard settings operators).convert x).outcome s).1) ∧
    ∀ (st : Statement) (clause : Clause) (span : Span),
      ((standard settings operators).traced st).1 = .error (.emptyClause clause span) →
        clause.isFilled = false ∧ ∃ y, (Segment.statement st).Reaches y ∧ y.Lacks clause span := by
  refine ⟨absenceRules_convert settings operators, fun st clause span h => ?_⟩
  have hrules := absenceRules_convert settings operators (.statement st)
    (Session.record (.statementStarted st.kind st.span) {})
  have hpresent : present st ((standard settings operators).run st
      (Session.record (.statementStarted st.kind st.span) {})).1 =
        .error (.emptyClause clause span) := h
  rcases hr : ((standard settings operators).run st
      (Session.record (.statementStarted st.kind st.span) {})).1 with e | _ | plan
  · rw [hr] at hpresent
    obtain rfl := Except.error.inj hpresent
    exact hrules.clause clause span hr
  · exact absurd (hrules.hollow hr) Bool.false_ne_true
  · rw [hr] at hpresent
    cases hpresent

end Compiler

end SqlAlgebra
