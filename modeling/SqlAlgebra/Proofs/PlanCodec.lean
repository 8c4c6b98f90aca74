import SqlAlgebra.Proofs.Ensures
import SqlAlgebra.Proofs.Vocabulary
import SqlAlgebra.Wire.Plan

/-!
# Plans and their JSON

An operator is written as its name and read as what the name denotes, and a call is refused if
its operator does not accept the number of its operands. So not every plan can be read back.
Those that can are the faithful ones (`Plan.Faithful`): each call in them has an operator that
its name denotes and as many operands as the operator accepts.

`plan_codec` says that faithful plans are read back from what is written for them, and that
only faithful plans are ever read. Both halves are inductions on levels: one shows that readers
recover (`Recovers`) faithful plans, the other that they ensure (`Ensures`) faithfulness.

All of this is about JSON values. How a value becomes a text and is parsed again is left out:
how numbers are written, and how deeply a text may nest.
-/

namespace SqlAlgebra

/-! ## Faithful plans -/

/-- Every call of the plan, at every depth, satisfies the arity of its operator, and its
operator is the one that the operator's name denotes. -/
def Plan.Faithful (plan : Plan) : Prop :=
  ∀ op operands distinct span, Plan.call op operands distinct span ∈ plan.walk →
    op.arity.accepts operands.length = true ∧ Operator.ofName op.name = op

/-- What a name denotes is denoted by its own name. -/
theorem Operator.ofName_name_ofName (name : String) :
    ofName (ofName name).name = ofName name := by
  by_cases hname : name ∈ names
  · obtain ⟨op, hop, rfl⟩ := List.mem_map.1 hname
    rw [ofName_name op hop, ofName_name op hop]
  · rw [(ofName_eq_function_iff name).2 hname]
    exact (ofName_eq_function_iff name).2 hname

namespace Plan

/-- A plan is faithful if its root is a faithful call, or none, and its children are faithful. -/
theorem faithful_iff (plan : Plan) : plan.Faithful ↔
    (∀ op operands distinct span, plan = .call op operands distinct span →
      op.arity.accepts operands.length = true ∧ Operator.ofName op.name = op) ∧
    ∀ child ∈ plan.children, child.Faithful := by
  constructor
  · intro h
    refine ⟨fun op operands distinct span heq => h op operands distinct span ?_,
      fun child hchild op operands distinct span hmem => h op operands distinct span ?_⟩
    · rw [walk_eq, ← heq]
      exact List.mem_cons_self
    · rw [walk_eq]
      exact List.mem_cons_of_mem _ (List.mem_flatMap_of_mem hchild hmem)
  · rintro ⟨hself, hchildren⟩ op operands distinct span hmem
    rw [walk_eq] at hmem
    rcases List.mem_cons.1 hmem with heq | hmem
    · exact hself op operands distinct span heq.symm
    · obtain ⟨child, hchild, hmem⟩ := List.mem_flatMap.1 hmem
      exact hchildren child hchild op operands distinct span hmem

section Nodes

variable {p q : Plan} {ps : List Plan} {span : Span} {flag : Bool}

@[simp] theorem faithful_scan {table : List String} : (scan table span).Faithful := by
  simp [faithful_iff (scan ..), children]

@[simp] theorem faithful_identifier {names : List String} : (identifier names span).Faithful := by
  simp [faithful_iff (identifier ..), children]

@[simp] theorem faithful_literal {value : Literal} : (literal value span).Faithful := by
  simp [faithful_iff (literal ..), children]

@[simp] theorem faithful_parameter {index : UInt64} : (parameter index span).Faithful := by
  simp [faithful_iff (parameter ..), children]

@[simp] theorem faithful_list : (list ps span).Faithful ↔ ∀ p ∈ ps, p.Faithful := by
  simp [faithful_iff (list ..), children]

/-- A projection is faithful if its input and its items are. -/
@[simp] theorem faithful_project :
    (project p ps flag).Faithful ↔ p.Faithful ∧ ∀ e ∈ ps, e.Faithful := by
  simp [faithful_iff (project ..), children]

@[simp] theorem faithful_filter : (filter p q).Faithful ↔ p.Faithful ∧ q.Faithful := by
  simp [faithful_iff (filter ..), children]

@[simp] theorem faithful_join {type : JoinType} {c : JoinCondition} :
    (join p q type flag c).Faithful ↔
      p.Faithful ∧ q.Faithful ∧ ∀ e, c = .condition e → e.Faithful := by
  cases c <;> simp [faithful_iff (join ..), children]

@[simp] theorem faithful_setOp {operation : SetOperation} :
    (setOp operation flag p q).Faithful ↔ p.Faithful ∧ q.Faithful := by
  simp [faithful_iff (setOp ..), children]

@[simp] theorem faithful_aggregate :
    (aggregate p ps).Faithful ↔ p.Faithful ∧ ∀ e ∈ ps, e.Faithful := by
  simp [faithful_iff (aggregate ..), children]

@[simp] theorem faithful_sort {offset fetch : Option Plan} :
    (sort p ps offset fetch).Faithful ↔ p.Faithful ∧ (∀ e ∈ ps, e.Faithful) ∧
      (∀ e ∈ offset, e.Faithful) ∧ ∀ e ∈ fetch, e.Faithful := by
  simp [faithful_iff (sort ..), children, or_imp, forall_and]

@[simp] theorem faithful_values {rows : List (List Plan)} :
    (values rows).Faithful ↔ ∀ row ∈ rows, ∀ e ∈ row, e.Faithful := by
  rw [faithful_iff]
  constructor
  · intro h row hrow e he
    exact h.2 e (List.mem_flatten_of_mem hrow he)
  · refine fun h => ⟨nofun, fun e he => ?_⟩
    obtain ⟨row, hrow, he⟩ := List.mem_flatten.1 he
    exact h row hrow e he

/-- A modification is faithful if its target and all that is written to it are. -/
@[simp] theorem faithful_modify {operation : Modification} {columns expressions : List Plan}
    {source condition : Option Plan} :
    (modify operation p columns source expressions condition).Faithful ↔
      p.Faithful ∧ (∀ e ∈ columns, e.Faithful) ∧ (∀ e ∈ source, e.Faithful) ∧
      (∀ e ∈ expressions, e.Faithful) ∧ ∀ e ∈ condition, e.Faithful := by
  simp [faithful_iff (modify ..), children, or_imp, forall_and]

/-- A call is faithful if its operator accepts the operands and is what its name denotes, and the
operands are faithful. -/
@[simp] theorem faithful_call {op : Operator} :
    (call op ps flag span).Faithful ↔ op.arity.accepts ps.length = true ∧
      Operator.ofName op.name = op ∧ ∀ e ∈ ps, e.Faithful := by
  rw [faithful_iff]
  constructor
  · rintro ⟨hself, hps⟩
    obtain ⟨haccepts, hname⟩ := hself op ps flag span rfl
    exact ⟨haccepts, hname, hps⟩
  · rintro ⟨haccepts, hname, hps⟩
    refine ⟨fun _ _ _ _ heq => ?_, hps⟩
    cases heq
    exact ⟨haccepts, hname⟩

end Nodes

end Plan

namespace Wire

/-! ## The schema of plans -/

/-- The objects that plans are written as. -/
inductive PlanRecord
  | scan | project | filter | join | setOp | aggregate | sort | values | modify | call
  | identifier | literal | parameter | list
  | noCondition | condition | columns

/-- The parts of plans that are one of several records. -/
inductive PlanUnion
  | node | joinCondition

/-- The fields of every record, with the defaults that are declared for them. -/
def PlanRecord.slots : PlanRecord → List (Slot PlanRecord PlanUnion)
  | scan => Slot.spanned "table" .plain
  | project =>
    [.required "input" (.union .node), .required "exprs" (.list (.union .node)),
      .flag "distinct"]
  | filter => [.required "input" (.union .node), .required "condition" (.union .node)]
  | join =>
    [.required "left" (.union .node), .required "right" (.union .node), .required "kind" .plain,
      .flag "natural", .required "condition" (.union .joinCondition)]
  | setOp =>
    [.required "kind" .plain, .required "all" .plain, .required "left" (.union .node),
      .required "right" (.union .node)]
  | aggregate => [.required "input" (.union .node), .required "group_by" (.list (.union .node))]
  | sort =>
    [.required "input" (.union .node), .required "order_by" (.list (.union .node)),
      .nullable "offset" (.union .node), .nullable "fetch" (.union .node)]
  | values => [.required "rows" (.list (.list (.union .node)))]
  | modify =>
    [.required "operation" .plain, .required "target" (.union .node),
      .items "columns" (.union .node), .nullable "source" (.union .node),
      .items "expressions" (.union .node), .nullable "condition" (.union .node)]
  | call =>
    [.required "operator" .plain, .required "operands" (.list (.union .node)), .flag "distinct",
      .span]
  | identifier => Slot.spanned "names" .plain
  | literal => Slot.spanned "value" .plain
  | parameter => Slot.spanned "index" .plain
  | list => Slot.spanned "items" (.list (.union .node))
  | noCondition => []
  | condition => [.required "value" (.union .node)]
  | columns => [.required "value" .plain]

/-- The field that names the variant. -/
def PlanUnion.tag : PlanUnion → String
  | node => "node"
  | joinCondition => "type"

/-- The variants of every union. -/
def PlanUnion.variants : PlanUnion → List (String × PlanRecord)
  | node =>
    [("Scan", .scan), ("Project", .project), ("Filter", .filter), ("Join", .join),
      ("SetOp", .setOp), ("Aggregate", .aggregate), ("Sort", .sort), ("Values", .values),
      ("TableModify", .modify), ("Call", .call), ("Identifier", .identifier),
      ("Literal", .literal), ("DynamicParam", .parameter), ("List", .list)]
  | joinCondition => [("None", .noCondition), ("On", .condition), ("Using", .columns)]

/-- The parts of plans. -/
def plans : Schema where
  Record := PlanRecord
  Union := PlanUnion
  slots := PlanRecord.slots
  tag := PlanUnion.tag
  variants := PlanUnion.variants
  names_nodup r := by cases r <;> decide
  tag_notMem u := by cases u <;> decide

/-! ## What is written for lists and optional parts -/

theorem toJsonAll_eq : ∀ ps : List Plan, Plan.toJsonAll ps = ps.map Plan.toJson
  | [] => rfl
  | p :: ps => congrArg (p.toJson :: ·) (toJsonAll_eq ps)

theorem toJsonRows_eq : ∀ rows : List (List Plan),
    Plan.toJsonRows rows = rows.map (Json.ofList Plan.toJson)
  | [] => rfl
  | row :: rows => by
    rw [Plan.toJsonRows, toJsonRows_eq rows, toJsonAll_eq]
    rfl

theorem optionToJson_eq (o : Option Plan) : Plan.optionToJson o = .ofOption Plan.toJson o := by
  cases o <;> rfl

theorem planToJson_ne_null (p : Plan) : p.toJson ≠ .null := by
  cases p <;> nofun

/-! ## Faithful plans are read back -/

section Recovered

variable {n : Nat} {read : Reader Plan}
  (hread : ∀ p : Plan, p.Faithful → Recovers plans n read (.union .node) p.toJson p)

include hread

/-- A list of faithful plans is recovered. -/
theorem recovers_plans {ps : List Plan} (h : ∀ p ∈ ps, p.Faithful) :
    Recovers plans n (listOf read) (.list (.union .node)) (.array (Plan.toJsonAll ps)) ps := by
  rw [toJsonAll_eq]
  exact recovers_list fun p hp => hread p (h p hp)

omit hread in
/-- The form of a join condition and its content stand side by side. -/
theorem recovers_joinContent {form : String} {r : plans.Record} {shape : plans.Shape}
    {json : Json} {c : JoinCondition} (hform : form ∈ joinForms)
    (hr : lookup form (plans.variants .joinCondition) = some r)
    (hslots : plans.slots r = [.required "value" shape])
    (h : Recovers plans n (joinContent read form) shape json c) :
    Recovers plans (n + 1) (joinCondition read) (.union .joinCondition)
      (.object [("type", .string form), ("value", json)]) c := by
  intro inner j hj hdepth
  have hnames : [("value", json)].map Prod.fst = (plans.slots r).map Slot.name := by
    rw [hslots]
    rfl
  obtain ⟨fields, position, rfl, htype, hentries, -⟩ := hj.exists_tagged hr hnames hdepth
  rw [hslots] at hentries
  obtain ⟨_, content, hvalue, hcontent, hlevels⟩ := hentries.1.exists_kept
  have htype : Parts.occurrences "type" fields 0 = [(position, .string form)] := htype
  have hword : oneWord joinForms id inner (.string form) = .ok form :=
    oneWord_name inner (by decide) hform
  simp only [joinCondition, htype, hvalue, hword]
  exact h inner content hcontent hlevels

/-- The condition of a join is recovered if its plan is faithful. -/
theorem recovers_joinCondition (c : JoinCondition) (h : ∀ p, c = .condition p → p.Faithful) :
    Recovers plans n (joinCondition read) (.union .joinCondition) (Plan.conditionToJson c) c := by
  refine Recovers.mono (?_ : Recovers plans (n + 1) _ _ _ c) (Nat.le_succ n)
  cases c with
  | none =>
    intro inner j hj _
    obtain ⟨kept, fields, rfl, hkept, hperm⟩ :=
      hj.exists_variant (r := PlanRecord.noCondition) rfl rfl
    cases hkept
    obtain rfl := List.singleton_perm.1 hperm
    rfl
  | condition p =>
    exact recovers_joinContent (by decide) rfl rfl ((hread p (h p rfl)).map JoinCondition.condition)
  | columns names =>
    exact recovers_joinContent (by decide) rfl rfl
      ((recovers_texts names).map JoinCondition.columns)

/-! ### Nodes -/

/-- A faithful projection is recovered with one level more than its parts. -/
theorem recovers_project {input : Plan} {exprs : List Plan} {distinct : Bool}
    (h : (Plan.project input exprs distinct).Faithful) :
    Recovers plans (n + 1) (planOver read) (.union .node)
      (Plan.project input exprs distinct).toJson (.project input exprs distinct) := by
  obtain ⟨hinput, hexprs⟩ := Plan.faithful_project.1 h
  refine recovers_variant rfl rfl ⟨rfl, fun inner fields hentries => ?_⟩
  obtain ⟨ginput, gexprs, gdistinct, -⟩ := hentries
  exact record_eq_ok ((((ginput.required (hread input hinput)).map Plan.project).seq
    (gexprs.required (recovers_plans hread hexprs))).seq gdistinct.flag)

theorem recovers_filter {input condition : Plan} (h : (Plan.filter input condition).Faithful) :
    Recovers plans (n + 1) (planOver read) (.union .node) (Plan.filter input condition).toJson
      (.filter input condition) := by
  obtain ⟨hinput, hcondition⟩ := Plan.faithful_filter.1 h
  refine recovers_variant rfl rfl ⟨rfl, fun inner fields hentries => ?_⟩
  obtain ⟨ginput, gcondition, -⟩ := hentries
  exact record_eq_ok (((ginput.required (hread input hinput)).map Plan.filter).seq
    (gcondition.required (hread condition hcondition)))

theorem recovers_join {left right : Plan} {type : JoinType} {natural : Bool} {c : JoinCondition}
    (h : (Plan.join left right type natural c).Faithful) :
    Recovers plans (n + 1) (planOver read) (.union .node)
      (Plan.join left right type natural c).toJson (.join left right type natural c) := by
  obtain ⟨hleft, hright, hc⟩ := Plan.faithful_join.1 h
  refine recovers_variant rfl rfl ⟨rfl, fun inner fields hentries => ?_⟩
  obtain ⟨gleft, gright, gtype, gnatural, gcondition, -⟩ := hentries
  exact record_eq_ok ((((((gleft.required (hread left hleft)).map Plan.join).seq
    (gright.required (hread right hright))).seq (gtype.required (recovers_joinType type))).seq
    gnatural.flag).seq (gcondition.required (recovers_joinCondition hread c hc)))

theorem recovers_setOp {operation : SetOperation} {all : Bool} {left right : Plan}
    (h : (Plan.setOp operation all left right).Faithful) :
    Recovers plans (n + 1) (planOver read) (.union .node)
      (Plan.setOp operation all left right).toJson (.setOp operation all left right) := by
  obtain ⟨hleft, hright⟩ := Plan.faithful_setOp.1 h
  have hword : Recovers plans n (oneWord SetOperation.all SetOperation.name) .plain
      (.string operation.name) operation :=
    recovers_word (by decide) (by cases operation <;> decide)
  refine recovers_variant rfl rfl ⟨rfl, fun inner fields hentries => ?_⟩
  obtain ⟨goperation, gall, gleft, gright, -⟩ := hentries
  exact record_eq_ok (((((goperation.required hword).map Plan.setOp).seq
    (gall.required (recovers_flag all))).seq (gleft.required (hread left hleft))).seq
    (gright.required (hread right hright)))

theorem recovers_aggregate {input : Plan} {groupBy : List Plan}
    (h : (Plan.aggregate input groupBy).Faithful) :
    Recovers plans (n + 1) (planOver read) (.union .node) (Plan.aggregate input groupBy).toJson
      (.aggregate input groupBy) := by
  obtain ⟨hinput, hkeys⟩ := Plan.faithful_aggregate.1 h
  refine recovers_variant rfl rfl ⟨rfl, fun inner fields hentries => ?_⟩
  obtain ⟨ginput, gkeys, -⟩ := hentries
  exact record_eq_ok (((ginput.required (hread input hinput)).map Plan.aggregate).seq
    (gkeys.required (recovers_plans hread hkeys)))

theorem recovers_sort {input : Plan} {orderBy : List Plan} {offset fetch : Option Plan}
    (h : (Plan.sort input orderBy offset fetch).Faithful) :
    Recovers plans (n + 1) (planOver read) (.union .node)
      (Plan.sort input orderBy offset fetch).toJson (.sort input orderBy offset fetch) := by
  obtain ⟨hinput, hkeys, hoffset, hfetch⟩ := Plan.faithful_sort.1 h
  refine recovers_variant rfl rfl ⟨rfl, fun inner fields hentries => ?_⟩
  obtain ⟨ginput, gkeys, goffset, gfetch, -⟩ := hentries
  rw [optionToJson_eq] at goffset gfetch
  exact record_eq_ok (((((ginput.required (hread input hinput)).map Plan.sort).seq
    (gkeys.required (recovers_plans hread hkeys))).seq
    (goffset.nullable planToJson_ne_null fun p hp => hread p (hoffset p hp))).seq
    (gfetch.nullable planToJson_ne_null fun p hp => hread p (hfetch p hp)))

theorem recovers_values {rows : List (List Plan)} (h : (Plan.values rows).Faithful) :
    Recovers plans (n + 1) (planOver read) (.union .node) (Plan.values rows).toJson
      (.values rows) := by
  have hrows : Recovers plans n (listOf (listOf read)) (.list (.list (.union .node)))
      (.array (Plan.toJsonRows rows)) rows := by
    rw [toJsonRows_eq]
    exact recovers_list fun row hrow => recovers_list fun p hp =>
      hread p (Plan.faithful_values.1 h row hrow p hp)
  refine recovers_variant rfl rfl ⟨rfl, fun inner fields hentries => ?_⟩
  exact record_eq_ok ((hentries.1.required hrows).map Plan.values)

/-- A faithful modification is recovered with one level more than its parts. -/
theorem recovers_modify {operation : Modification} {target : Plan}
    {columns expressions : List Plan} {source condition : Option Plan}
    (h : (Plan.modify operation target columns source expressions condition).Faithful) :
    Recovers plans (n + 1) (planOver read) (.union .node)
      (Plan.modify operation target columns source expressions condition).toJson
      (.modify operation target columns source expressions condition) := by
  obtain ⟨htarget, hcolumns, hsource, hexpressions, hcondition⟩ := Plan.faithful_modify.1 h
  have hword : Recovers plans n (oneWord Modification.all Modification.name) .plain
      (.string operation.name) operation :=
    recovers_word (by decide) (by cases operation <;> decide)
  refine recovers_variant rfl rfl ⟨rfl, fun inner fields hentries => ?_⟩
  obtain ⟨goperation, gtarget, gcolumns, gsource, gexpressions, gcondition, -⟩ := hentries
  rw [toJsonAll_eq] at gcolumns gexpressions
  rw [optionToJson_eq] at gsource gcondition
  exact record_eq_ok (((((((goperation.required hword).map Plan.modify).seq
    (gtarget.required (hread target htarget))).seq
    (gcolumns.items fun p hp => hread p (hcolumns p hp))).seq
    (gsource.nullable planToJson_ne_null fun p hp => hread p (hsource p hp))).seq
    (gexpressions.items fun p hp => hread p (hexpressions p hp))).seq
    (gcondition.nullable planToJson_ne_null fun p hp => hread p (hcondition p hp)))

/-- A call passes the check of its arity, and its operator is found by its name. -/
theorem recovers_call {op : Operator} {operands : List Plan} {distinct : Bool} {s : Span}
    (h : (Plan.call op operands distinct s).Faithful) :
    Recovers plans (n + 1) (planOver read) (.union .node)
      (Plan.call op operands distinct s).toJson (.call op operands distinct s) := by
  obtain ⟨haccepts, hname, hoperands⟩ := Plan.faithful_call.1 h
  have hoperator : Recovers plans n operator .plain (.string op.name) op :=
    recovers_plain fun _ => congrArg Except.ok hname
  have happly : Plan.apply op operands distinct s = .ok (.call op operands distinct s) :=
    if_pos haccepts
  refine recovers_variant rfl rfl ⟨rfl, fun inner fields hentries => ?_⟩
  obtain ⟨goperator, goperands, gdistinct, gspan, -⟩ := hentries
  rw [call, record_eq_ok (a := Plan.apply op operands distinct s), happly]
  exact ((((goperator.required hoperator).map Plan.apply).seq
    (goperands.required (recovers_plans hread hoperands))).seq gdistinct.flag).seq gspan.span

/-- A reader that recovers the faithful plans of `n` levels makes a reader for one level more. -/
theorem recovers_planOver (p : Plan) (h : p.Faithful) :
    Recovers plans (n + 1) (planOver read) (.union .node) p.toJson p := by
  cases p with
  | scan table s => exact recovers_variant rfl rfl (fills_spanned rfl (recovers_texts table))
  | project => exact recovers_project hread h
  | filter => exact recovers_filter hread h
  | join => exact recovers_join hread h
  | setOp => exact recovers_setOp hread h
  | aggregate => exact recovers_aggregate hread h
  | sort => exact recovers_sort hread h
  | values => exact recovers_values hread h
  | modify => exact recovers_modify hread h
  | call => exact recovers_call hread h
  | identifier names s =>
    exact recovers_variant rfl rfl (fills_spanned rfl (recovers_texts names))
  | literal value s => exact recovers_variant rfl rfl (fills_spanned rfl (recovers_literal value))
  | parameter index s =>
    exact recovers_variant rfl rfl (fills_spanned rfl (recovers_unsigned64 "usize" index))
  | list items s =>
    have hitems := recovers_plans hread (Plan.faithful_list.1 h)
    exact recovers_variant rfl rfl (fills_spanned rfl hitems)

end Recovered

/-- Readers of any number of levels recover the faithful plans that are no deeper. -/
theorem recovers_planAt : ∀ (n : Nat) (p : Plan), p.Faithful →
    Recovers plans n (planAt n) (.union .node) p.toJson p
  | 0, _, _ => recovers_zero
  | n + 1, p, h => recovers_planOver (recovers_planAt n) p h

/-- A faithful plan is read from any abridgement of what is written for it. -/
theorem plan_eq_ok {p : Plan} (h : p.Faithful) (inner : Bool) {json : Json}
    (hjson : plans.Abridged (.union .node) p.toJson json) : plan inner json = .ok p :=
  recovers_planAt json.depth p h inner json hjson (Nat.le_refl _)

/-! ## Only faithful plans are read -/

section Read

variable {read : Reader Plan} (hread : Ensures read Plan.Faithful)

include hread

/-- The plan of a join condition, if it has one, was read by the reader of plans. -/
theorem ensures_joinContent (form : String) :
    Ensures (joinContent read form) fun c => ∀ p, c = .condition p → p.Faithful := by
  intro inner json c hc p hp
  unfold joinContent at hc
  split at hc
  · obtain ⟨q, hq, rfl⟩ := exists_of_map_eq_ok hc
    cases hp
    exact hread inner json p hq
  · obtain ⟨names, _, rfl⟩ := exists_of_map_eq_ok hc
    cases hp
  · split at hc
    · cases hc
      cases hp
    · cases hc

theorem ensures_joinCondition :
    Ensures (joinCondition read) fun c => ∀ p, c = .condition p → p.Faithful := by
  intro inner json c hc
  have hcontent := ensures_joinContent hread
  unfold joinCondition at hc
  split at hc
  · split at hc
    · cases hc
    · split at hc
      · cases hc
      · cases hc
        exact nofun
      · cases hc
    · split at hc
      · cases hc
      · exact hcontent _ _ _ c hc
    · cases hc
    · cases hc
  · split at hc
    · cases hc
    · split at hc
      · cases hc
      · split at hc
        · cases hc
        next hc' =>
          split at hc
          · cases hc
            exact hcontent _ _ _ c hc'
          · cases hc
  · cases hc
  · cases hc

omit hread in
/-- An operator is read as what its name denotes. -/
theorem ensures_operator : Ensures operator fun op => Operator.ofName op.name = op := by
  intro inner json op hop
  obtain ⟨name, _, rfl⟩ := exists_of_map_eq_ok hop
  exact Operator.ofName_name_ofName name

/-- A call that is read has passed the check of its arity. -/
theorem ensures_call : Ensures (call read) Plan.Faithful := by
  have happly : ∀ op, Operator.ofName op.name = op → ∀ operands : List Plan,
      (∀ p ∈ operands, p.Faithful) → ∀ distinct, True → ∀ s, True →
      ∀ p, Plan.apply op operands distinct s = .ok p → p.Faithful := by
    intro op hop operands hoperands distinct _ s _ p hp
    unfold Plan.apply at hp
    split at hp
    next haccepts =>
      cases hp
      exact Plan.faithful_call.2 ⟨haccepts, hop, hoperands⟩
    · cases hp
  intro inner json p hp
  unfold call at hp
  dsimp only at hp
  split at hp
  · cases hp
  next hparts =>
    cases hp
    refine ensures_record (P := fun r => ∀ p, r = Except.ok p → p.Faithful) (fun parts => ?_)
      inner json _ hparts p rfl
    exact ((((Parts.givesOnly_required ensures_operator).map happly).seq
      (Parts.givesOnly_required (ensures_listOf hread))).seq (Draft.givesOnly_true _)).seq
      (Draft.givesOnly_true _)
  · cases hp

/-- A reader that gives faithful plans makes a reader that does, node by node. -/
theorem ensures_planOver : Ensures (planOver read) Plan.Faithful := by
  have hplans := ensures_listOf hread
  have hoption := ensures_optional hread
  have hnil : ∀ p ∈ ([] : List Plan), p.Faithful := List.forall_mem_nil _
  have hnone : ∀ p ∈ (none : Option Plan), p.Faithful := fun _ hp => nomatch hp
  refine ensures_tagged ?_
  simp only [List.forall_mem_cons]
  refine ⟨?scan, ?project, ?filter, ?join, ?setOp, ?aggregate, ?sort, ?values, ?modify,
    ensures_call hread, ?identifier, ?literal, ?parameter, ?list, List.forall_mem_nil _⟩
  all_goals refine ensures_record fun parts => ?_
  case scan =>
    exact ((Draft.givesOnly_true _).map fun _ _ _ _ => Plan.faithful_scan).seq
      (Draft.givesOnly_true _)
  case project =>
    exact (((Parts.givesOnly_required hread).map fun _ hinput _ hexprs _ _ =>
      Plan.faithful_project.2 ⟨hinput, hexprs⟩).seq (Parts.givesOnly_required hplans)).seq
      (Draft.givesOnly_true _)
  case filter =>
    exact ((Parts.givesOnly_required hread).map fun _ hinput _ hcondition =>
      Plan.faithful_filter.2 ⟨hinput, hcondition⟩).seq (Parts.givesOnly_required hread)
  case join =>
    exact (((((Parts.givesOnly_required hread).map fun _ hleft _ hright _ _ _ _ _ hc =>
      Plan.faithful_join.2 ⟨hleft, hright, hc⟩).seq (Parts.givesOnly_required hread)).seq
      (Draft.givesOnly_true _)).seq (Draft.givesOnly_true _)).seq
      (Parts.givesOnly_required (ensures_joinCondition hread))
  case setOp =>
    exact ((((Draft.givesOnly_true _).map fun _ _ _ _ _ hleft _ hright =>
      Plan.faithful_setOp.2 ⟨hleft, hright⟩).seq (Draft.givesOnly_true _)).seq
      (Parts.givesOnly_required hread)).seq (Parts.givesOnly_required hread)
  case aggregate =>
    exact ((Parts.givesOnly_required hread).map fun _ hinput _ hkeys =>
      Plan.faithful_aggregate.2 ⟨hinput, hkeys⟩).seq (Parts.givesOnly_required hplans)
  case sort =>
    exact ((((Parts.givesOnly_required hread).map fun _ hinput _ hkeys _ hoffset _ hfetch =>
      Plan.faithful_sort.2 ⟨hinput, hkeys, hoffset, hfetch⟩).seq
      (Parts.givesOnly_required hplans)).seq (Parts.givesOnly_withDefault hoption hnone)).seq
      (Parts.givesOnly_withDefault hoption hnone)
  case values =>
    exact (Parts.givesOnly_required (ensures_listOf hplans)).map fun _ hrows =>
      Plan.faithful_values.2 hrows
  case modify =>
    exact ((((((Draft.givesOnly_true _).map
      fun _ _ _ htarget _ hcolumns _ hsource _ hexpressions _ hcondition =>
        Plan.faithful_modify.2 ⟨htarget, hcolumns, hsource, hexpressions, hcondition⟩).seq
      (Parts.givesOnly_required hread)).seq (Parts.givesOnly_withDefault hplans hnil)).seq
      (Parts.givesOnly_withDefault hoption hnone)).seq
      (Parts.givesOnly_withDefault hplans hnil)).seq (Parts.givesOnly_withDefault hoption hnone)
  case identifier =>
    exact ((Draft.givesOnly_true _).map fun _ _ _ _ => Plan.faithful_identifier).seq
      (Draft.givesOnly_true _)
  case literal =>
    exact ((Draft.givesOnly_true _).map fun _ _ _ _ => Plan.faithful_literal).seq
      (Draft.givesOnly_true _)
  case parameter =>
    exact ((Draft.givesOnly_true _).map fun _ _ _ _ => Plan.faithful_parameter).seq
      (Draft.givesOnly_true _)
  case list =>
    exact ((Parts.givesOnly_required hplans).map fun _ hitems _ _ =>
      Plan.faithful_list.2 hitems).seq (Draft.givesOnly_true _)

end Read

/-- Readers of any number of levels read faithful plans only. -/
theorem ensures_planAt : ∀ n, Ensures (planAt n) Plan.Faithful
  | 0 => nofun
  | n + 1 => ensures_planOver (ensures_planAt n)

/-- Only faithful plans are read. -/
theorem faithful_of_plan {inner : Bool} {json : Json} {p : Plan} (h : plan inner json = .ok p) :
    p.Faithful :=
  ensures_planAt json.depth inner json p h

/-- Faithful plans are read back from the JSON value that is written for them, whole or abridged.
Only faithful plans are read at all, so writing and reading again what was read changes nothing.
The texts of the values are not looked at. -/
theorem plan_codec (p : Plan) (inner : Bool) :
    (p.Faithful → plan inner p.toJson = .ok p ∧
      ∀ json, plans.Abridged (.union .node) p.toJson json → plan inner json = .ok p) ∧
    ∀ json, plan inner json = .ok p → p.Faithful ∧ plan inner p.toJson = .ok p := by
  have hwhole : p.Faithful → plan inner p.toJson = .ok p := fun h =>
    plan_eq_ok h inner (.same _ _)
  refine ⟨fun h => ⟨hwhole h, fun json => plan_eq_ok h inner⟩, fun json hjson => ?_⟩
  have h := faithful_of_plan hjson
  exact ⟨h, hwhole h⟩

/-- `NOT ?` without the fields that hold their default. -/
theorem plan_codec_negation :
    plan false (.object [("node", .string "Call"), ("operator", .string "NOT"),
      ("operands", .array [.object [("node", .string "DynamicParam"), ("index", .ofNat 0)]])]) =
      .ok (.call (.core .not) [.parameter 0 .zero] false .zero) := by
  have hfaithful : (Plan.call (.core .not) [.parameter 0 .zero] false .zero).Faithful :=
    Plan.faithful_call.2 ⟨by decide, by decide +kernel, by simp⟩
  refine ((plan_codec _ false).1 hfaithful).2 _ (.variant rfl (.keep (.same _ _) (.keep
    (.list (.cons (.variant rfl (.keep (.same _ _) (.drop rfl .nil)) (.refl _)) .nil))
    (.drop rfl (.drop rfl .nil)))) (.refl _))

end Wire

end SqlAlgebra
