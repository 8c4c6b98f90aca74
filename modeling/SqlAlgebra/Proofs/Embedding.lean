import SqlAlgebra.Proofs.Absence
import SqlAlgebra.Proofs.Reference

/-!
# The plans of parts stand in the plan of the whole

A plan is put together from the plans of the parts, and nothing is taken out of these again. So
whatever a segment reaches, the plan of that part is a node of the plan of the segment
(`Compiler.Ran.exists_mem_walk`). One level of this is read off the forms of plans, once for each
family (`PartSpec.Embeds`); the rest is the transitivity of `Plan.Contains`.
-/

namespace SqlAlgebra

open Conversion ConvertM

/-! ## Nodes below a node -/

namespace Plan

/-- The second plan is the first one, or stands somewhere below its root. -/
def Contains : Plan → Plan → Prop :=
  Relation.ReflTransGen fun p q => q ∈ p.children

theorem contains_self (p : Plan) : p.Contains p := .refl

theorem contains_child {p q : Plan} (h : q ∈ p.children) : p.Contains q := .single h

/-- What a plan contains is met on a walk through it. -/
theorem Contains.mem_walk {p q : Plan} (h : p.Contains q) : q ∈ p.walk := by
  induction h using Relation.ReflTransGen.head_induction_on with
  | refl =>
    rw [walk_eq]
    exact List.mem_cons_self ..
  | head hchild _ ih =>
    rw [walk_eq]
    exact List.mem_cons_of_mem _ (List.mem_flatMap.2 ⟨_, hchild, ih⟩)

/-- A call contains its first operand. -/
theorem contains_first (op : Operator) (p : Plan) (rest : List Plan) (distinct : Bool)
    (span : Span) : (call op (p :: rest) distinct span).Contains p :=
  contains_child (List.mem_cons_self ..)

theorem contains_aliased (p : Plan) (name : Option String) (span : Span) :
    (aliased p name span).Contains p :=
  contains_first ..

theorem contains_titled (p : Plan) (name : Option String) (span : Span) :
    (p.titled name span).Contains p := by
  cases name with
  | none => exact p.contains_self
  | some name => exact p.contains_aliased (some name) span

theorem contains_inDirection (p : Plan) (direction : Direction) (span : Span) :
    (p.inDirection direction span).Contains p := by
  cases direction with
  | ascending => exact p.contains_self
  | descending => exact contains_first ..

theorem contains_withNulls (p : Plan) (nulls : Option NullsOrder) :
    (p.withNulls nulls).Contains p := by
  rcases nulls with _ | _ | _
  · exact p.contains_self
  · exact contains_first ..
  · exact contains_first ..

end Plan

/-! ## Forms embed the plans of the parts -/

namespace PartSpec

/-- What is known about the plan of a segment. -/
def Has (K : PartSpec) : Segment → Plan → Prop
  | .expression x, p => K.expr x p
  | .table x, p => K.table x p
  | .select q, p => K.select q p
  | .projection x, p => ∃ ordinal, K.item ordinal x p
  | .statement _, _ => False

/-- For each of some segments, what is known about its plan is true of a node of `p`. -/
def Embeds (K : PartSpec) (xs : List Segment) (p : Plan) : Prop :=
  ∀ x ∈ xs, ∃ q, p.Contains q ∧ K.Has x q

variable {K : PartSpec} {p q : Plan}

theorem embeds_nil (p : Plan) : K.Embeds [] p := List.forall_mem_nil _

theorem embeds_singleton {x : Segment} (hq : p.Contains q) (hx : K.Has x q) : K.Embeds [x] p :=
  List.forall_mem_singleton.2 ⟨q, hq, hx⟩

/-- Segments are embedded one by one. -/
theorem embeds_cons {x : Segment} {xs : List Segment} (hq : p.Contains q) (hx : K.Has x q)
    (hxs : K.Embeds xs p) : K.Embeds (x :: xs) p :=
  List.forall_mem_cons.2 ⟨⟨q, hq, hx⟩, hxs⟩

theorem Embeds.append {xs ys : List Segment} (hxs : K.Embeds xs p) (hys : K.Embeds ys p) :
    K.Embeds (xs ++ ys) p :=
  List.forall_mem_append.2 ⟨hxs, hys⟩

/-- What is embedded in a part of a plan is embedded in the plan. -/
theorem Embeds.above {xs : List Segment} (h : K.Embeds xs q) (hq : p.Contains q) :
    K.Embeds xs p := fun x hx => by
  obtain ⟨r, hr, hxr⟩ := h x hx
  exact ⟨r, hq.trans hr, hxr⟩

/-- Segments given one by one, each with its plan. -/
theorem embeds_of_forall₂ {α : Type} {R : α → Plan → Prop} {visits : α → List Segment}
    {as : List α} {ps : List Plan} (h : List.Forall₂ R as ps)
    (hR : ∀ {a r}, R a r → K.Embeds (visits a) r) (hps : ps ⊆ p.children) :
    K.Embeds (as.flatMap visits) p := by
  induction h with
  | nil => exact embeds_nil p
  | cons hr _ ih =>
    obtain ⟨hhead, htail⟩ := List.cons_subset.1 hps
    rw [List.flatMap_cons]
    exact ((hR hr).above (Plan.contains_child hhead)).append (ih htail)

/-- Expressions are embedded in a node that has their plans among its children. -/
theorem embeds_expressions {xs : List Expr} {ps : List Plan} (h : List.Forall₂ K.expr xs ps)
    (hps : ps ⊆ p.children) : K.Embeds (xs.map .expression) p := by
  rw [List.map_eq_flatMap]
  exact embeds_of_forall₂ h (fun hr => embeds_singleton (Plan.contains_self _) hr) hps

/-- A clause that may be missing, with what it converts to. -/
theorem embeds_of_rel {α β : Type} {R : α → β → Prop} {visits : α → List Segment}
    {x : Option α} {y : Option β} (h : Option.Rel R x y)
    (hR : ∀ a b, R a b → y = some b → K.Embeds (visits a) p) :
    K.Embeds (x.toList.flatMap visits) p := by
  cases h with
  | none => exact embeds_nil p
  | some hab =>
    rw [Option.toList_some, List.flatMap_singleton]
    exact hR _ _ hab rfl

end PartSpec

open PartSpec Plan

variable {K : PartSpec} {p : Plan}

/-! ### Expressions and select-list items -/

theorem embeds_of_aggregateForm {a : Aggregation} (h : AggregateForm K a p) :
    K.Embeds (a.arguments.map .expression) p := by
  cases h with
  | rows _ hnone =>
    rw [hnone]
    exact embeds_nil _
  | arguments _ _ hoperands => exact embeds_expressions hoperands (List.Subset.refl _)

theorem embeds_of_otherwiseForm {x : Option Expr} (h : OtherwiseForm K x p) :
    K.Embeds (x.toList.map .expression) p := by
  cases h with
  | none => exact embeds_nil _
  | some hx => exact embeds_singleton p.contains_self hx

/-- What an expression visits is embedded in its plan. -/
theorem embeds_of_exprForm {operators : OperatorTable} {x : Expr}
    (h : ExprForm operators K x p) : K.Embeds x.visits p := by
  cases h with
  | column c => exact embeds_nil _
  | literal value span => exact embeds_nil _
  | parameter index span => exact embeds_nil _
  | test hoperator _ hp =>
    rw [Expr.visits, hoperator]
    exact embeds_singleton (contains_first ..) hp
  | binary htest _ _ hp hq =>
    rw [Expr.visits, htest]
    exact embeds_expressions (.cons hp (.cons hq .nil)) (List.Subset.refl _)
  | negation hp => exact embeds_singleton (contains_first ..) hp
  | @memberOfItems left right _ _ _ _ hright hp hq =>
    cases right with
    | subquery query => exact absurd rfl (hright query)
    | _ => exact embeds_expressions (.cons hp (.cons hq .nil)) (List.Subset.refl _)
  | memberOfQuery hp hq =>
    refine embeds_cons (contains_first ..) hp (embeds_singleton (contains_child ?_) hq)
    exact List.mem_cons_of_mem _ (List.mem_singleton.2 rfl)
  | between hp hq hr =>
    exact embeds_expressions (.cons hp (.cons hq (.cons hr .nil))) (List.Subset.refl _)
  | list hitems => exact embeds_expressions hitems (List.Subset.refl _)
  | function _ hoperands => exact embeds_expressions hoperands (List.Subset.refl _)
  | aggregation ha => exact embeds_of_aggregateForm ha
  | subquery hp => exact embeds_singleton (contains_first ..) hp
  | existence hp => exact embeds_singleton (contains_first ..) hp
  | absence hp => exact embeds_singleton ((contains_first ..).trans (contains_first ..)) hp
  | caseWhen _ _ hparts hlast =>
    rw [Expr.visits, List.map_append]
    refine (embeds_expressions hparts (List.subset_append_left ..)).append ?_
    refine (embeds_of_otherwiseForm hlast).above (contains_child ?_)
    exact List.mem_append_right _ (List.mem_singleton.2 rfl)

/-- What an item visits is embedded in its plan. -/
theorem embeds_of_itemForm {settings : CompilerSettings} {ordinal : Nat} {x : Projection}
    (h : ItemForm settings K ordinal x p) : K.Embeds x.visits p := by
  cases h with
  | column c aliasName span => exact embeds_nil _
  | expression hp => exact embeds_singleton (contains_titled ..) hp
  | aggregation hp => exact (embeds_of_aggregateForm hp).above (contains_titled ..)
  | shorthand owner span => exact embeds_nil _
  | subquery hp =>
    exact embeds_singleton ((contains_titled ..).trans (contains_first ..)) hp

/-! ### Tables -/

theorem embeds_of_joinForm {condition : Option Expr} {columns : List Column}
    {matched : JoinCondition} (h : JoinForm K condition columns matched) (left right : Plan)
    (type : JoinType) (natural : Bool) :
    K.Embeds (condition.toList.map .expression) (.join left right type natural matched) := by
  cases h with
  | condition hp =>
    refine embeds_singleton (contains_child ?_) hp
    exact List.mem_cons_of_mem _ (List.mem_cons_of_mem _ (List.mem_singleton.2 rfl))
  | columns _ => exact embeds_nil _
  | none => exact embeds_nil _

/-- What a table visits is embedded in its plan. -/
theorem embeds_of_tableForm {x : Table} (h : TableForm K x p) : K.Embeds x.visits p := by
  cases h with
  | simple t => exact embeds_nil _
  | @join left right _ _ _ _ _ p q _ _ hp hq hmatched =>
    obtain ⟨hleft, hright⟩ := mem_children_join p q _ _ _
    have hsides : K.Embeds [.table left, .table right] _ :=
      embeds_cons (contains_child hleft) hp (embeds_singleton (contains_child hright) hq)
    exact hsides.append (embeds_of_joinForm hmatched p q _ _)
  | derived hlist hp =>
    obtain ⟨l, hl⟩ := Option.isSome_iff_exists.1 hlist
    rw [Table.visits, hl]
    exact embeds_singleton (contains_aliased ..) hp
  | explicit hlist hsource hp =>
    rw [Table.visits, hlist, hsource]
    exact embeds_singleton ((contains_aliased ..).trans (contains_first ..)) hp

/-! ### SELECTs -/

theorem embeds_of_keyForm {item : OrderItem} (h : KeyForm K item p) :
    K.Embeds item.visits p := by
  cases h with
  | column c _ _ _ => exact embeds_nil _
  | expression hp => exact embeds_singleton p.contains_self hp
  | ordinal _ => exact embeds_nil _

/-- What an item of ORDER BY visits is embedded in its plan. -/
theorem embeds_of_sortForm {item : OrderItem} (h : SortForm K item p) :
    K.Embeds item.visits p := by
  obtain ⟨hkey⟩ := h
  exact (embeds_of_keyForm hkey).above ((contains_withNulls ..).trans (contains_inDirection ..))

theorem embeds_of_itemsForm {ordinal : Nat} {xs : List Projection} {ps : List Plan}
    (h : ItemsForm K ordinal xs ps) (hps : ps ⊆ p.children) :
    K.Embeds (xs.map .projection) p := by
  induction h with
  | nil _ => exact embeds_nil p
  | cons hp _ ih =>
    obtain ⟨hhead, htail⟩ := List.cons_subset.1 hps
    exact embeds_cons (contains_child hhead) ⟨_, hp⟩ (ih htail)

theorem embeds_of_sourceForm {source : Option Table} (h : SourceForm K source p) :
    K.Embeds (source.toList.map .table) p := by
  cases h with
  | none => exact embeds_nil _
  | some hp => exact embeds_singleton p.contains_self hp

/-- The condition of a clause is embedded in a node that has its plan as a child. -/
theorem embeds_of_condition {clause : Option SqlAlgebra.Condition} {o : Option Plan}
    (h : Option.Rel (fun clause q => K.expr clause.expr q) clause o)
    (ho : o.toList ⊆ p.children) : K.Embeds (conditionVisits clause) p := by
  cases h with
  | none => exact embeds_nil _
  | some hx => exact embeds_singleton (contains_child (ho (List.mem_singleton.2 rfl))) hx

namespace SelectParts

variable (p : Plan)

/-- The layer of WHERE contains what is below it. -/
theorem contains_filtered (condition : Option Plan) : (filtered condition p).Contains p := by
  cases condition with
  | none => exact p.contains_self
  | some x => exact contains_child (List.mem_cons_self ..)

theorem contains_grouped (keys : Option (List Plan)) (having : Option Plan) :
    (grouped keys having p).Contains p := by
  unfold grouped
  split
  · exact p.contains_self
  · exact contains_child (List.mem_cons_self ..)

theorem contains_projected (projections : Option (List Plan × Bool)) :
    (projected projections p).Contains p := by
  cases projections with
  | none => exact p.contains_self
  | some r => exact contains_child (List.mem_cons_self ..)

theorem contains_combinedWith (combined : Option (CombineType × Plan)) :
    (combinedWith combined p).Contains p := by
  cases combined with
  | none => exact p.contains_self
  | some r => exact contains_child (List.mem_cons_self ..)

theorem contains_sorted (orderBy : List Plan) (offset fetch : Option Plan) :
    (sorted orderBy offset fetch p).Contains p := by
  unfold sorted
  split
  · exact p.contains_self
  · exact contains_child (List.mem_cons_self ..)

theorem embeds_filtered {clause : Option SqlAlgebra.Condition} {o : Option Plan}
    (h : Option.Rel (fun clause q => K.expr clause.expr q) clause o) :
    K.Embeds (conditionVisits clause) (filtered o p) := by
  refine embeds_of_condition h ?_
  cases o with
  | none => exact List.nil_subset _
  | some x => exact List.subset_cons_self ..

theorem embeds_grouped {groupBy : Option OrderClause} {keys : Option (List Plan)}
    (h : Option.Rel (fun (clause : OrderClause) keys =>
      clause.items ≠ [] ∧ List.Forall₂ (KeyForm K) clause.items keys) groupBy keys)
    (having : Option Plan) : K.Embeds (orderVisits groupBy) (grouped keys having p) := by
  refine embeds_of_rel h fun clause keys hkeys => ?_
  rintro rfl
  exact embeds_of_forall₂ hkeys.2 embeds_of_keyForm (List.subset_cons_self ..)

theorem embeds_projected {projections : Option SelectList} {o : Option (List Plan × Bool)}
    (h : Option.Rel (fun (l : SelectList) r => l.items ≠ [] ∧ ItemsForm K 0 l.items r.1 ∧
      r.2 = l.distinct) projections o) :
    K.Embeds (projections.toList.flatMap fun l => l.items.map .projection)
      (projected o p) := by
  refine embeds_of_rel h fun l r hitems => ?_
  rintro rfl
  exact embeds_of_itemsForm hitems.2.1 (List.subset_cons_self ..)

/-- The right side of a set operation is embedded in its layer. -/
theorem embeds_combinedWith {combine : Option Combine} {o : Option (CombineType × Plan)}
    (h : Option.Rel (fun (c : Combine) r => r.1 = c.type ∧ K.select c.query.select r.2)
      combine o) :
    K.Embeds (combine.toList.map fun c => .select c.query.select) (combinedWith o p) := by
  cases h with
  | none => exact embeds_nil _
  | some hr =>
    refine embeds_singleton (contains_child ?_) hr.2
    exact List.mem_cons_of_mem _ (List.mem_singleton.2 rfl)

theorem embeds_sorted {orderBy : Option OrderClause} {keys : Option (List Plan)}
    (h : Option.Rel (fun (clause : OrderClause) keys =>
      clause.items ≠ [] ∧ List.Forall₂ (SortForm K) clause.items keys) orderBy keys)
    (offset fetch : Option Plan) :
    K.Embeds (orderVisits orderBy) (sorted (keys.getD []) offset fetch p) := by
  refine embeds_of_rel h fun clause keys hkeys => ?_
  rintro rfl
  refine embeds_of_forall₂ hkeys.2 embeds_of_sortForm ?_
  unfold sorted
  split
  · rename_i hnil
    rw [show keys = [] from hnil]
    exact List.nil_subset _
  · intro key hkey
    simp [children, hkey]

end SelectParts

/-- What a SELECT visits is embedded in its plan: each clause has a layer, and every layer contains
the ones below it. -/
theorem embeds_of_selectForm {q : Select} (h : SelectForm K q p) : K.Embeds q.visits p := by
  obtain @⟨parts, hparts⟩ := h
  obtain ⟨keys, hkeys, horder⟩ := hparts.orderBy
  rw [SelectParts.plan, hkeys]
  have hsort := fun r =>
    SelectParts.contains_sorted r (keys.getD []) parts.offset parts.fetch
  have hcombine := fun r => (hsort _).trans (SelectParts.contains_combinedWith r parts.combined)
  have hlist := fun r => (hcombine _).trans (SelectParts.contains_projected r parts.projections)
  have hhaving := fun r => (hlist _).trans (SelectParts.contains_filtered r parts.having)
  have hgroup := fun r =>
    (hhaving _).trans (SelectParts.contains_grouped r parts.groupBy parts.having)
  have hcondition := fun r => (hgroup _).trans (SelectParts.contains_filtered r parts.condition)
  unfold Select.visits
  exact ((((((((embeds_of_sourceForm hparts.source).above (hcondition _)).append
    ((SelectParts.embeds_filtered _ hparts.condition).above (hgroup _))).append
    ((SelectParts.embeds_grouped _ hparts.groupBy _).above (hhaving _))).append
    ((SelectParts.embeds_filtered _ hparts.having).above (hlist _))).append
    ((SelectParts.embeds_projected _ hparts.projections).above (hcombine _))).append
    (SelectParts.embeds_sorted _ horder _ _)).append
    ((SelectParts.embeds_combinedWith _ hparts.combined).above (hsort _)))

/-! ### Statements -/

/-- The values of a SET list are embedded in a node that has their plans among its children. -/
theorem embeds_of_assignmentsForm {as : List Assignment} {names values : List Plan}
    (h : AssignmentsForm K as names values) (hvalues : values ⊆ p.children) :
    K.Embeds (assignmentVisits as) p := by
  induction h with
  | nil => exact embeds_nil p
  | cons _ hvalue _ ih =>
    obtain ⟨hhead, htail⟩ := List.cons_subset.1 hvalues
    exact embeds_cons (contains_child hhead) hvalue (ih htail)

/-- The values of VALUES are embedded in a node that has their plans among its children. -/
theorem embeds_of_rows {width : Nat} {rows : List ValuesRow} {plans : List (List Plan)}
    (h : List.Forall₂ (fun (row : ValuesRow) values =>
      row.values.length = width ∧ List.Forall₂ K.expr row.values values) rows plans)
    (hplans : plans.flatten ⊆ p.children) :
    K.Embeds (rows.flatMap fun row => row.values.map .expression) p := by
  induction h with
  | nil => exact embeds_nil p
  | cons hrow _ ih =>
    obtain ⟨hhead, htail⟩ := List.append_subset.1 hplans
    rw [List.flatMap_cons]
    exact (embeds_expressions hrow.2 hhead).append (ih htail)

/-- What an INSERT visits is embedded in the plan of its rows. -/
theorem embeds_of_insertForm {s : Insert} {names : List Plan} (hcount : s.sourceCount = 1)
    (h : InsertForm K s names p) : K.Embeds (Statement.insert s).visits p := by
  cases h with
  | @set set _ values hset _ has =>
    obtain ⟨hquery, hrows⟩ := Insert.only_set hcount hset
    have hvalues := embeds_of_assignmentsForm has (p := .values [values]) (by simp [children])
    simpa [Statement.visits, hset, hquery, hrows] using hvalues
  | @query query _ hset hquery hp =>
    have hrows := Insert.only_query hcount hquery
    have hselect : K.Embeds [.select query.select] p := embeds_singleton p.contains_self hp
    simpa [Statement.visits, hset, hquery, hrows] using hselect
  | @rows rows hset hquery hrows =>
    have hvalues := embeds_of_rows hrows (p := .values rows) (List.Subset.refl _)
    simpa [Statement.visits, hset, hquery] using hvalues

/-- What a statement visits is embedded in its plan. -/
theorem embeds_of_statementForm {st : Statement} (h : StatementForm K st p) :
    K.Embeds st.visits p := by
  cases h with
  | select hs => exact embeds_of_selectForm hs
  | insert hcount hi =>
    refine (embeds_of_insertForm hcount hi).above (contains_child ?_)
    simp [children]
  | @update s p names values filter _ _ hp has _ hfilter =>
    have htarget : K.Embeds [.table s.table] (.modify .update p names none values filter) :=
      embeds_singleton (contains_child (List.mem_cons_self ..)) hp
    have hvalues : values ⊆ (Plan.modify .update p names none values filter).children :=
      List.Subset.trans (List.subset_append_right ..) (List.subset_append_left ..)
    exact (htarget.append (embeds_of_assignmentsForm has hvalues)).append
      (embeds_of_condition hfilter (List.subset_append_right ..))
  | @delete s p filter _ _ hp hfilter =>
    have htarget : K.Embeds [.table s.table] (.modify .delete p [] none [] filter) :=
      embeds_singleton (contains_child (List.mem_cons_self ..)) hp
    exact htarget.append (embeds_of_condition hfilter (List.subset_append_right ..))

/-! ## Conversions -/

namespace Compiler

/-- In some run, a segment has been converted to a plan. -/
def Ran (c : Compiler) (x : Segment) (p : Plan) : Prop :=
  ∃ n s, ((c.convertWithin n x).outcome s).1 = .ok (some p)

/-- What is known about the plans of the parts: each comes from a run. -/
def ranSpec (c : Compiler) : PartSpec where
  expr x p := c.Ran (.expression x) p
  table x p := c.Ran (.table x) p
  select q p := c.Ran (.select q) p
  item _ x p := c.Ran (.projection x) p

/-- What the parts of a segment are known for is that they were converted to their plans. -/
theorem ran_of_has {c : Compiler} {x : Segment} (h : c.ranSpec.Has x p) : c.Ran x p := by
  cases x with
  | table x => exact h
  | projection x =>
    obtain ⟨_, h⟩ := h
    exact h
  | expression x => exact h
  | statement st => exact h.elim
  | select q => exact h

variable {settings : CompilerSettings} {operators : OperatorTable}

/-- What a conversion hands to its descent is converted in the course of it. -/
theorem reads_ran (n : Nat) :
    Reads ((standard settings operators).convertWithin n)
      (standard settings operators).ranSpec := by
  have hgo := reads_convertWithin (anything_closed settings operators) n
  exact {
    keeps := hgo.keeps
    expr := fun h => by
      obtain ⟨p, rfl, -⟩ := hgo.expr h
      exact ⟨p, rfl, n, _, congrArg Prod.fst h⟩
    select := fun h => by
      obtain ⟨p, rfl, -⟩ := hgo.select h
      exact ⟨p, rfl, n, _, congrArg Prod.fst h⟩
    table := fun h => ⟨n, _, congrArg Prod.fst h⟩
    item := fun h => by
      obtain ⟨p, rfl, -⟩ := hgo.item h
      exact ⟨p, rfl, n, _, congrArg Prod.fst h⟩ }

/-- The plans of the parts of a segment are nodes of its plan. -/
theorem Ran.embeds {x : Segment} (h : (standard settings operators).Ran x p) :
    (standard settings operators).ranSpec.Embeds x.visits p := by
  obtain ⟨n, s, h⟩ := h
  cases n with
  | zero => cases h
  | succ n =>
    obtain ⟨_, _, h, -⟩ := convertWithin_eq_ok (Prod.ext h rfl)
    have hgo : Reads ((standard settings operators).convertWithin n) _ := reads_ran n
    cases x with
    | table x =>
      obtain ⟨_, h⟩ := handled_eq_ok (isDirect_handler_ofRules _ _ _) h
      exact embeds_of_tableForm (tableRule_form hgo h)
    | projection x =>
      obtain ⟨_, h⟩ := handled_eq_ok (isDirect_handler_ofRules _ _ _) h
      obtain ⟨_, ho, hp⟩ := projectionRule_form hgo h
      obtain rfl := Option.some.inj ho
      exact embeds_of_itemForm hp
    | expression x =>
      obtain ⟨_, h⟩ := handled_eq_ok (isDirect_handler_ofRules _ _ _) h
      obtain ⟨_, ho, hp⟩ := exprRule_form hgo h
      obtain rfl := Option.some.inj ho
      exact embeds_of_exprForm hp
    | statement st =>
      obtain ⟨_, h⟩ := handled_eq_ok (isDirect_handler_ofRules _ _ _) h
      obtain ⟨_, ho, hp⟩ := statementRule_form hgo h
      obtain rfl := Option.some.inj ho
      exact embeds_of_statementForm hp
    | select q =>
      obtain ⟨_, h, ho⟩ := outcome_map_eq_ok h
      obtain rfl := Option.some.inj ho
      exact embeds_of_selectForm (select_form hgo h)

/-- Whatever a segment reaches has its plan among the nodes of the plan of the segment. -/
theorem Ran.exists_mem_walk {x y : Segment} (h : (standard settings operators).Ran x p)
    (hy : x.Reaches y) : ∃ q ∈ p.walk, (standard settings operators).Ran y q := by
  have hcontains : ∃ q, p.Contains q ∧ (standard settings operators).Ran y q := by
    induction hy with
    | refl => exact ⟨p, p.contains_self, h⟩
    | tail _ hstep ih =>
      obtain ⟨q, hq, hran⟩ := ih
      obtain ⟨r, hr, hhas⟩ := hran.embeds _ hstep
      exact ⟨r, hq.trans hr, ran_of_has hhas⟩
  obtain ⟨q, hq, hran⟩ := hcontains
  exact ⟨q, hq.mem_walk, hran⟩

end Compiler

end SqlAlgebra
