import SqlAlgebra.Proofs.Inversion
import SqlAlgebra.Proofs.Resolution

/-!
# The grammar of plans

A plan is one tree of nodes for rows and for values alike; nothing in its type keeps a value
from standing where rows are read. This module says which plans make sense, by four kinds of
position that are defined together:

* `Plan.IsRelation` : rows are read here, as by a filter, a join or EXISTS;
* `Plan.IsScalar` : a value is read here. Rows occur in it only under EXISTS, as a scalar
  subquery and on the right of IN;
* `Plan.IsItem` : an item of a select list, a value that may carry an alias;
* `Plan.IsSortKey` : a value that may be marked with a direction and a place for nulls.

`Plan.IsStatement` adds the modifications, which stand at the root only. The standard compiler
gives nothing else: `Compiler.tryConvert_isStatement`.
-/

namespace SqlAlgebra

/-! ## Plans that make sense -/

/-- Whether an operator takes values to a value. The other operators wrap rows or mark a place
and stand where the grammar says. -/
def CoreOperator.isScalar : CoreOperator → Bool
  | asAlias | explicitTable => false
  | existsQuery | scalarQuery => false
  | descending | nullsFirst | nullsLast => false
  | _ => true

/-- Whether an operator takes values to a value; every function does. -/
def Operator.isScalar : Operator → Bool
  | core op => op.isScalar
  | builtin _ | function _ => true

namespace Plan

/-- Whether a node is a count: a literal that is not negative, or a parameter. -/
def isCount : Plan → Bool
  | literal (.integer n) _ => 0 ≤ n
  | parameter .. => true
  | _ => false

/-- Whether a node is a name. -/
def isName : Plan → Bool
  | identifier .. => true
  | _ => false

mutual

/-- A plan for rows. -/
inductive IsRelation : Plan → Prop
  | scan (table : List String) (span : Span) : IsRelation (.scan table span)
  | project {input : Plan} {items : List Plan} (distinct : Bool) (hinput : IsRelation input)
      (hsome : items ≠ []) (hitems : ∀ x ∈ items, IsItem x) :
    IsRelation (.project input items distinct)
  | filter {input condition : Plan} (hinput : IsRelation input)
      (hcondition : IsScalar condition) : IsRelation (.filter input condition)
  | join {left right : Plan} {condition : JoinCondition} (type : JoinType) (natural : Bool)
      (hleft : IsRelation left) (hright : IsRelation right) (hcondition : IsMatch condition) :
    IsRelation (.join left right type natural condition)
  | setOp {left right : Plan} (operation : SetOperation) (all : Bool)
      (hleft : IsRelation left) (hright : IsRelation right) :
    IsRelation (.setOp operation all left right)
  | aggregate {input : Plan} {keys : List Plan} (hinput : IsRelation input)
      (hkeys : ∀ x ∈ keys, IsScalar x) : IsRelation (.aggregate input keys)
  | sort {input : Plan} {keys : List Plan} {offset fetch : Option Plan}
      (hinput : IsRelation input) (hkeys : ∀ x ∈ keys, IsSortKey x)
      (hoffset : ∀ x ∈ offset, x.isCount) (hfetch : ∀ x ∈ fetch, x.isCount) :
    IsRelation (.sort input keys offset fetch)
  | values {rows : List (List Plan)} (width : Nat) (hsome : rows ≠ [])
      (hwidth : ∀ row ∈ rows, row.length = width) (hrows : ∀ row ∈ rows, ∀ x ∈ row, IsScalar x) :
    IsRelation (.values rows)
  /-- Rows under an alias, or in brackets without one. -/
  | aliased {target : Plan} (aliasName : Option String) (span : Span)
      (htarget : IsRelation target) : IsRelation (.aliased target aliasName span)
  /-- The rows of a table taken as it is. -/
  | explicit {target : Plan} (aliasName : Option String) (span : Span)
      (htarget : IsRelation target) :
    IsRelation (.aliased (.explicitTable target) aliasName span)

/-- What the rows of a join are matched by. -/
inductive IsMatch : JoinCondition → Prop
  | none : IsMatch .none
  | condition {x : Plan} (hx : IsScalar x) : IsMatch (.condition x)
  | columns (names : List String) : IsMatch (.columns names)

/-- A plan for a value. -/
inductive IsScalar : Plan → Prop
  | identifier (names : List String) (span : Span) : IsScalar (.identifier names span)
  | literal (value : Literal) (span : Span) : IsScalar (.literal value span)
  | parameter (index : UInt64) (span : Span) : IsScalar (.parameter index span)
  | list {items : List Plan} (span : Span) (hitems : ∀ x ∈ items, IsScalar x) :
    IsScalar (.list items span)
  | call {op : Operator} {operands : List Plan} (distinct : Bool) (span : Span)
      (hop : op.isScalar) (hoperands : ∀ x ∈ operands, IsScalar x) :
    IsScalar (.call op operands distinct span)
  | existsQuery {rows : Plan} (span : Span) (hrows : IsRelation rows) :
    IsScalar (.call (.core .existsQuery) [rows] false span)
  | scalarQuery {rows : Plan} (span : Span) (hrows : IsRelation rows) :
    IsScalar (.call (.core .scalarQuery) [rows] false span)
  | member {element rows : Plan} (span : Span) (helement : IsScalar element)
      (hrows : IsRelation rows) : IsScalar (.call (.core .memberOf) [element, rows] false span)
  | notMember {element rows : Plan} (span : Span) (helement : IsScalar element)
      (hrows : IsRelation rows) :
    IsScalar (.call (.core .notMemberOf) [element, rows] false span)

/-- A plan for an item of a select list. -/
inductive IsItem : Plan → Prop
  | plain {x : Plan} (hx : IsScalar x) : IsItem x
  | aliased {x : Plan} (name : String) (span : Span) (hx : IsScalar x) :
    IsItem (.aliased x (some name) span)

/-- A plan for a sort key. -/
inductive IsSortKey : Plan → Prop
  | key {x : Plan} (direction : Direction) (nulls : Option NullsOrder) (span : Span)
      (hx : IsScalar x) : IsSortKey ((x.inDirection direction span).withNulls nulls)

end

/-- A plan for a whole statement. -/
inductive IsStatement : Plan → Prop
  | query {p : Plan} (hp : IsRelation p) : IsStatement p
  | insert {columns : List Plan} {source : Plan} (table : List String) (span : Span)
      (hcolumns : ∀ x ∈ columns, x.isName) (hsource : IsRelation source) :
    IsStatement (.modify .insert (.scan table span) columns (some source) [] none)
  | update {target : Plan} {columns values : List Plan} {condition : Option Plan}
      (htarget : IsRelation target) (hsome : columns ≠ [])
      (hcolumns : ∀ x ∈ columns, x.isName) (hlength : columns.length = values.length)
      (hvalues : ∀ x ∈ values, IsScalar x) (hcondition : ∀ x ∈ condition, IsScalar x) :
    IsStatement (.modify .update target columns none values condition)
  | delete {target : Plan} {condition : Option Plan} (htarget : IsRelation target)
      (hcondition : ∀ x ∈ condition, IsScalar x) :
    IsStatement (.modify .delete target [] none [] condition)

end Plan

open Conversion Plan

/-! ## Operators -/

/-- The standard binary operators make expressions. -/
theorem isScalar_of_resolveBinary? {text : String} {op : Operator}
    (h : OperatorTable.standard.resolveBinary? text = some op) : op.isScalar :=
  OperatorTable.of_resolveBinary?_standard (P := fun op => op.isScalar) (by decide) h

/-- Functions make expressions, known or not. -/
theorem isScalar_resolveFunction (name : String) :
    (OperatorTable.standard.resolveFunction name).isScalar :=
  OperatorTable.of_resolveFunction_standard (P := fun op => op.isScalar) (by decide)
    (fun _ => rfl) name

/-- The operators of IS make expressions. -/
theorem isScalar_of_literalTest? {negated : Bool} {x : Expr} {op : CoreOperator}
    (h : literalTest? negated x = some op) : op.isScalar :=
  of_literalTest? (P := fun op => op.isScalar) (by decide) h

/-! ## Forms stay within the grammar -/

/-- What the grammar says about the plans of the parts. -/
def PartSpec.grammar : PartSpec where
  expr _ p := p.IsScalar
  table _ p := p.IsRelation
  select _ p := p.IsRelation
  item _ _ p := p.IsItem

section Lifting

variable {α β : Type} {R : α → β → Prop} {P : β → Prop}

theorem forall_mem_of_forall₂ {as : List α} {bs : List β} (h : List.Forall₂ R as bs)
    (hR : ∀ a b, R a b → P b) : ∀ b ∈ bs, P b := by
  induction h with
  | nil => exact fun _ hb => by cases hb
  | cons hab _ ih => exact List.forall_mem_cons.2 ⟨hR _ _ hab, ih⟩

theorem forall₂_right_ne_nil {as : List α} {bs : List β} (h : List.Forall₂ R as bs)
    (hsome : as ≠ []) : bs ≠ [] := by
  rintro rfl
  exact hsome (List.forall₂_nil_right_iff.1 h)

theorem forall_mem_of_rel {x : Option α} {y : Option β} (h : Option.Rel R x y)
    (hR : ∀ a b, R a b → P b) : ∀ b ∈ y, P b := by
  intro b hb
  cases h with
  | none => cases hb
  | some hab =>
    obtain rfl := Option.some.inj hb
    exact hR _ _ hab

end Lifting

theorem isScalar_of_forall₂ {xs : List Expr} {ps : List Plan}
    (h : List.Forall₂ PartSpec.grammar.expr xs ps) : ∀ p ∈ ps, p.IsScalar :=
  forall_mem_of_forall₂ h fun _ _ hp => hp

theorem isScalar_call_pair {op : CoreOperator} {p q : Plan} {span : Span} (hop : op.isScalar)
    (hp : p.IsScalar) (hq : q.IsScalar) : (Plan.call (.core op) [p, q] false span).IsScalar :=
  .call false span hop (List.forall_mem_cons.2 ⟨hp, List.forall_mem_singleton.2 hq⟩)

/-- The plan of an aggregate call is an expression. -/
theorem isScalar_of_aggregateForm {a : Aggregation} {p : Plan}
    (h : AggregateForm .grammar a p) : p.IsScalar := by
  cases h with
  | rows _ _ => exact .call _ _ rfl (List.forall_mem_singleton.2 (.identifier _ _))
  | arguments _ _ hoperands =>
    refine .call _ _ ?_ (isScalar_of_forall₂ hoperands)
    cases a.function <;> rfl

/-- The plan of an expression is an expression if the plans of its parts are what they should be. -/
theorem isScalar_of_exprForm {x : Expr} {p : Plan}
    (h : ExprForm .standard .grammar x p) : p.IsScalar := by
  cases h with
  | column c => exact .identifier _ _
  | literal value span => exact .literal value span
  | parameter index span => exact .parameter index span
  | test _ hright hp =>
    exact .call _ _ (isScalar_of_literalTest? hright) (List.forall_mem_singleton.2 hp)
  | binary _ hoperator _ hp hq =>
    exact .call _ _ (isScalar_of_resolveBinary? hoperator)
      (List.forall_mem_cons.2 ⟨hp, List.forall_mem_singleton.2 hq⟩)
  | negation hp => exact .call _ _ rfl (List.forall_mem_singleton.2 hp)
  | @memberOfItems _ _ negated _ _ _ _ hp hq =>
    refine isScalar_call_pair ?_ hp hq
    cases negated <;> rfl
  | @memberOfQuery _ _ negated _ _ _ hp hq =>
    cases negated with
    | false => exact .member _ hp hq
    | true => exact .notMember _ hp hq
  | @between _ _ _ negated _ _ _ _ hp hq hr =>
    refine .call _ _ ?_ (List.forall_mem_cons.2 ⟨hp, List.forall_mem_cons.2
      ⟨hq, List.forall_mem_singleton.2 hr⟩⟩)
    cases negated <;> rfl
  | list hitems => exact .list _ (isScalar_of_forall₂ hitems)
  | function _ hoperands =>
    exact .call _ _ (isScalar_resolveFunction _) (isScalar_of_forall₂ hoperands)
  | aggregation ha => exact isScalar_of_aggregateForm ha
  | subquery hp => exact .scalarQuery _ hp
  | existence hp => exact .existsQuery _ hp
  | absence hp => exact .call _ _ rfl (List.forall_mem_singleton.2 (.existsQuery _ hp))
  | @caseWhen operand _ _ _ _ _ _ _ _ hparts hlast =>
    refine .call _ _ ?_ (List.forall_mem_append.2
      ⟨isScalar_of_forall₂ hparts, List.forall_mem_singleton.2 ?_⟩)
    · cases operand <;> rfl
    · cases hlast with
      | none => exact .literal _ _
      | some hx => exact hx

theorem isItem_titled {p : Plan} (name : Option String) (span : Span) (hp : p.IsScalar) :
    (p.titled name span).IsItem := by
  cases name with
  | none => exact .plain hp
  | some name => exact .aliased name span hp

/-- The plan of an item is an item of a projection. -/
theorem isItem_of_itemForm {settings : CompilerSettings} {ordinal : Nat} {x : Projection}
    {p : Plan} (h : ItemForm settings .grammar ordinal x p) : p.IsItem := by
  cases h with
  | column c aliasName span => exact isItem_titled _ _ (.identifier _ _)
  | expression hp => exact isItem_titled _ _ hp
  | aggregation hp => exact isItem_titled _ _ (isScalar_of_aggregateForm hp)
  | shorthand owner span => exact .plain (.identifier _ _)
  | subquery hp => exact isItem_titled _ _ (.scalarQuery _ hp)

/-- The plans of a select list are items of a projection. -/
theorem isItem_of_itemsForm {ordinal : Nat} {xs : List Projection} {ps : List Plan}
    (h : ItemsForm .grammar ordinal xs ps) : ∀ p ∈ ps, p.IsItem := by
  induction h with
  | nil _ => exact fun _ hp => by cases hp
  | cons hp _ ih => exact List.forall_mem_cons.2 ⟨hp, ih⟩

theorem ne_nil_of_itemsForm {ordinal : Nat} {xs : List Projection} {ps : List Plan}
    (h : ItemsForm .grammar ordinal xs ps) (hsome : xs ≠ []) : ps ≠ [] := by
  cases h with
  | nil _ => exact absurd rfl hsome
  | cons _ _ => exact List.cons_ne_nil _ _

/-- The plan of a table is a relation. -/
theorem isRelation_of_tableForm {x : Table} {p : Plan} (h : TableForm .grammar x p) :
    p.IsRelation := by
  cases h with
  | simple t =>
    cases ht : t.aliasName with
    | none => exact .scan _ _
    | some name => exact .aliased (some name) _ (.scan _ _)
  | join _ hp hq hmatched =>
    refine .join _ _ hp hq ?_
    cases hmatched with
    | condition hx => exact .condition hx
    | columns _ => exact .columns _
    | none => exact .none
  | derived _ hp => exact .aliased _ _ hp
  | explicit _ _ hp => exact .explicit _ _ hp

/-- A number that fits into a literal is not negative there. -/
theorem nonneg_toInt64 {n : UInt64} (h : n ≤ greatestLiteral) : 0 ≤ n.toInt64 := by
  have hle : n.toNat ≤ 9223372036854775807 := UInt64.le_iff_toNat_le.1 h
  have hlt : 2 * n.toBitVec.toNat < 2 ^ 64 := by
    rw [UInt64.toNat_toBitVec]
    omega
  have hint : n.toInt64.toInt = n.toNat := by
    rw [Int64.toInt, UInt64.toBitVec_toInt64, BitVec.toInt_eq_toNat_of_lt hlt,
      UInt64.toNat_toBitVec]
  rw [Int64.le_iff_toInt_le, hint]
  exact Int.natCast_nonneg _

/-- A number of rows is written as a literal that is not negative. -/
theorem isCount_of_countLiteral? {n : UInt64} {span : Span} {p : Plan}
    (h : countLiteral? n span = some p) : p.isCount := by
  unfold countLiteral? at h
  split at h
  · rename_i hle
    obtain rfl := Option.some.inj h
    exact decide_eq_true (nonneg_toInt64 hle)
  · cases h

theorem isScalar_of_keyForm {item : OrderItem} {p : Plan} (h : KeyForm .grammar item p) :
    p.IsScalar := by
  cases h with
  | column c _ _ _ => exact .identifier _ _
  | expression hp => exact hp
  | ordinal hp =>
    unfold countLiteral? at hp
    split at hp
    · obtain rfl := Option.some.inj hp
      exact .literal _ _
    · cases hp

/-- The plan of an item of ORDER BY is a sort key. -/
theorem isSortKey_of_sortForm {item : OrderItem} {p : Plan} (h : SortForm .grammar item p) :
    p.IsSortKey := by
  cases h with
  | key hp => exact .key _ _ _ (isScalar_of_keyForm hp)

/-- The plan of a number of rows is a literal that is not negative, or a parameter. -/
theorem isCount_of_pageForm {value : PageValue} {p : Plan} (h : PageForm value p) :
    p.isCount := by
  cases h with
  | number hp => exact isCount_of_countLiteral? hp
  | parameter index span => rfl

theorem isRelation_of_sourceForm {source : Option Table} {p : Plan}
    (h : SourceForm .grammar source p) : p.IsRelation := by
  cases h with
  | none => exact .values 0 (by simp) (by simp) (by simp)
  | some hp => exact hp

/-! ### Composing the clauses of a SELECT -/

section Composition

variable {p : Plan}

/-- The layer of WHERE makes a relation of a relation and a condition. -/
theorem isRelation_filtered {condition : Option Plan} (hp : p.IsRelation)
    (hcondition : ∀ x ∈ condition, x.IsScalar) :
    (SelectParts.filtered condition p).IsRelation := by
  cases condition with
  | none => exact hp
  | some x => exact .filter hp (hcondition x rfl)

theorem isRelation_grouped {keys : Option (List Plan)} (having : Option Plan)
    (hp : p.IsRelation) (hkeys : ∀ ks ∈ keys, ∀ x ∈ ks, x.IsScalar) :
    (SelectParts.grouped keys having p).IsRelation := by
  unfold SelectParts.grouped
  split
  · exact hp
  · refine .aggregate hp ?_
    cases keys with
    | none => exact fun _ hx => by cases hx
    | some ks => exact hkeys ks rfl

theorem isRelation_projected {projections : Option (List Plan × Bool)} (hp : p.IsRelation)
    (hitems : ∀ r ∈ projections, r.1 ≠ [] ∧ ∀ x ∈ r.1, x.IsItem) :
    (SelectParts.projected projections p).IsRelation := by
  cases projections with
  | none => exact hp
  | some r => exact .project r.2 hp (hitems r rfl).1 (hitems r rfl).2

theorem isRelation_combinedWith {combined : Option (CombineType × Plan)} (hp : p.IsRelation)
    (hright : ∀ r ∈ combined, r.2.IsRelation) :
    (SelectParts.combinedWith combined p).IsRelation := by
  cases combined with
  | none => exact hp
  | some r => exact .setOp _ _ hp (hright r rfl)

theorem isRelation_sorted {keys : List Plan} {offset fetch : Option Plan} (hp : p.IsRelation)
    (hkeys : ∀ x ∈ keys, x.IsSortKey) (hoffset : ∀ x ∈ offset, x.isCount)
    (hfetch : ∀ x ∈ fetch, x.isCount) : (SelectParts.sorted keys offset fetch p).IsRelation := by
  unfold SelectParts.sorted
  split
  · exact hp
  · exact .sort hp hkeys hoffset hfetch

end Composition

theorem isScalar_of_condition {c : Option SqlAlgebra.Condition} {o : Option Plan}
    (h : Option.Rel (fun c p => PartSpec.grammar.expr c.expr p) c o) : ∀ x ∈ o, x.IsScalar :=
  forall_mem_of_rel h fun _ _ hp => hp

theorem isSortKey_of_partsForm {x : Select} {parts : SelectParts}
    (h : PartsForm .grammar x parts) : ∀ p ∈ parts.orderBy, p.IsSortKey := by
  obtain ⟨keys, hkeys, hrel⟩ := h.orderBy
  have hsort : ∀ ks ∈ keys, ∀ p ∈ ks, IsSortKey p := forall_mem_of_rel hrel fun _ _ hitems =>
    forall_mem_of_forall₂ hitems.2 fun _ _ => isSortKey_of_sortForm
  rw [hkeys]
  cases keys with
  | none => exact fun _ hp => by cases hp
  | some ks => exact hsort ks rfl

/-- The plan of a SELECT is a relation, as each of its layers is one. -/
theorem isRelation_of_selectForm {x : Select} {p : Plan} (h : SelectForm .grammar x p) :
    p.IsRelation := by
  obtain @⟨parts, hparts⟩ := h
  have hwhere := isRelation_filtered (isRelation_of_sourceForm hparts.source)
    (isScalar_of_condition hparts.condition)
  have hgroup := isRelation_grouped parts.having hwhere
    (forall_mem_of_rel hparts.groupBy fun _ _ hkeys =>
      forall_mem_of_forall₂ hkeys.2 fun _ _ => isScalar_of_keyForm)
  have hhaving := isRelation_filtered hgroup (isScalar_of_condition hparts.having)
  have hlist := isRelation_projected hhaving (forall_mem_of_rel hparts.projections fun _ _ hl =>
    ⟨ne_nil_of_itemsForm hl.2.1 hl.1, isItem_of_itemsForm hl.2.1⟩)
  have hset := isRelation_combinedWith hlist
    (forall_mem_of_rel hparts.combined fun _ _ hr => hr.2)
  exact isRelation_sorted hset (isSortKey_of_partsForm hparts)
    (forall_mem_of_rel hparts.offset fun _ _ => isCount_of_pageForm)
    (forall_mem_of_rel hparts.fetch fun _ _ => isCount_of_pageForm)

/-- A SET list has as many names as expressions. -/
theorem isName_of_assignmentsForm {as : List Assignment} {names values : List Plan}
    (h : AssignmentsForm .grammar as names values) :
    (∀ x ∈ names, x.isName) ∧ (∀ x ∈ values, x.IsScalar) ∧ names.length = values.length := by
  induction h with
  | nil => simp
  | cons _ hvalue _ ih =>
    refine ⟨List.forall_mem_cons.2 ⟨rfl, ih.1⟩, List.forall_mem_cons.2 ⟨hvalue, ih.2.1⟩, ?_⟩
    rw [List.length_cons, List.length_cons, ih.2.2]

/-- An INSERT that has one source, and it is neither a SET list nor a query, has rows. -/
theorem Insert.rows_ne_nil {x : Insert} (hcount : x.sourceCount = 1) (hset : x.set = none)
    (hquery : x.query = none) : x.rows ≠ [] := by
  intro hnil
  rw [sourceCount, hset, hquery, hnil] at hcount
  cases hcount

/-- The source of an INSERT is a relation, and its columns are names. -/
theorem isRelation_of_insertForm {x : Insert} {names : List Plan} {rows : Plan}
    (hcount : x.sourceCount = 1) (h : InsertForm .grammar x names rows) :
    (∀ c ∈ names, c.isName) ∧ rows.IsRelation := by
  have hcolumns : ∀ c ∈ columnPlans x.columns, c.isName := by
    intro c hc
    obtain ⟨_, -, rfl⟩ := List.mem_map.1 hc
    rfl
  cases h with
  | set _ _ has =>
    obtain ⟨hnames, hvalues, -⟩ := isName_of_assignmentsForm has
    exact ⟨hnames, .values _ (List.cons_ne_nil _ _) (List.forall_mem_singleton.2 rfl)
      (List.forall_mem_singleton.2 hvalues)⟩
  | query _ _ hp => exact ⟨hcolumns, hp⟩
  | rows hset hquery hrows =>
    refine ⟨hcolumns, .values x.width ?_ ?_ ?_⟩
    · exact forall₂_right_ne_nil hrows (Insert.rows_ne_nil hcount hset hquery)
    · exact forall_mem_of_forall₂ hrows fun _ _ hrow => hrow.2.length_eq.symm.trans hrow.1
    · exact forall_mem_of_forall₂ hrows fun _ _ hrow => isScalar_of_forall₂ hrow.2

/-- The plan of a statement is a statement. -/
theorem isStatement_of_statementForm {st : Statement} {p : Plan}
    (h : StatementForm .grammar st p) : p.IsStatement := by
  cases h with
  | select hs => exact .query (isRelation_of_selectForm hs)
  | insert hcount hi =>
    obtain ⟨hnames, hrows⟩ := isRelation_of_insertForm hcount hi
    exact .insert _ _ hnames hrows
  | update _ _ hp has hsome hfilter =>
    obtain ⟨hnames, hvalues, hlength⟩ := isName_of_assignmentsForm has
    exact .update hp hsome hnames hlength hvalues (isScalar_of_condition hfilter)
  | delete _ _ hp hfilter => exact .delete hp (isScalar_of_condition hfilter)

/-! ## Conversions -/

/-- Plans that are built from parts of the right type have the right type. -/
theorem grammar_closed (settings : CompilerSettings) :
    PartSpec.grammar.Closed settings .standard where
  expr := isScalar_of_exprForm
  table := isRelation_of_tableForm
  select := isRelation_of_selectForm
  item := isItem_of_itemForm

namespace Compiler

/-- Every plan of a statement is in the grammar, whatever the settings. -/
theorem tryConvert_isStatement (settings : CompilerSettings) {st : Statement} {plan : Plan}
    (h : (⟨settings, .standard⟩ : Compiler).tryConvert st = .ok (some plan)) :
    plan.IsStatement := by
  obtain ⟨p, hp, hform⟩ := tryConvert_form (grammar_closed settings) h
  obtain rfl := Option.some.inj hp
  exact isStatement_of_statementForm hform

/-- `SELECT NOT EXISTS (TABLE u) FROM t x ORDER BY a DESC LIMIT ?` has a plan in the grammar. -/
theorem tryConvert_isStatement_sorted : ∃ plan,
    ({} : Compiler).tryConvert (.select
      ⟨some ⟨false, [.expression (.existence ⟨⟨none, some (.simple { name := "u" }), none, none,
        none, none, none, none, .zero⟩, .zero⟩ true .zero) none .zero], .zero⟩,
      some (.simple { name := "t", aliasName := some "x" }), none, none, none,
      some ⟨[.column { name := "a" } .descending none .zero], .zero⟩,
      some ⟨none, some (.parameter 0 .zero), .zero⟩, none, .zero⟩) = .ok (some plan) ∧
    plan.IsStatement :=
  ⟨_, (and_iff_left_of_imp fun h => tryConvert_isStatement {} h).2 rfl⟩

end Compiler

end SqlAlgebra
