import SqlAlgebra.Proofs.Recovery

/-!
# Statements and their JSON

Reading what was written for a statement gives the statement back, also if fields that hold
their default have been left out of it (`statement_abridged`). `segments` is the schema of
statements: the fields of every part, and which of them have a default.

Expressions, tables, projections and SELECTs contain one another, and their readers are built
level by level, so the proof is by induction on levels: readers that recover everything of at
most `n` levels make readers that recover everything of one level more (`Readers.Recover.deeper`).

What is written and read is a JSON value. The text of the value is left out: how numbers are
written, and how deeply a text may nest.
-/

namespace SqlAlgebra.Wire

/-! ## The schema of statements -/

/-- The parts of a statement that are written as the object of their fields. -/
inductive SegmentRecord
  | column | literal | parameter | binary | negation | membership | between | list | function
  | aggregation | subquery | existence | caseWhen | common
  | simpleTable | joinTable | subqueryTable | deleteMultiTable
  | columnProjection | expressionProjection | aggregationProjection | shorthandProjection
  | subqueryProjection | selectList
  | condition | columnItem | expressionItem | indexItem | orderClause
  | number | pageParameter | limit | combine
  | assignment | setClause | valuesRow
  | select | insert | update | delete

/-- The parts of a statement that are one of several records. -/
inductive SegmentUnion
  | expr | table | projection | orderItem | pageValue | statement

namespace SegmentRecord

/-- The fields of a record that gives a name to something. -/
def aliased (name : String) (shape : Shape SegmentRecord SegmentUnion) :
    List (Slot SegmentRecord SegmentUnion) :=
  [.required name shape, .nullable "alias" .plain, .span]

/-- The fields of a sort item. -/
def item (name : String) (shape : Shape SegmentRecord SegmentUnion) :
    List (Slot SegmentRecord SegmentUnion) :=
  [.required name shape, ⟨"direction", .plain, some .ascending⟩, .nullable "nulls_order" .plain,
    .span]

/-- The fields of every record, with the defaults that are declared for them. -/
def slots : SegmentRecord → List (Slot SegmentRecord SegmentUnion)
  | column => [.nullable "owner" .plain, .required "name" .plain, .span]
  | literal => Slot.spanned "value" .plain
  | parameter => Slot.spanned "index" .plain
  | binary =>
    [.required "left" (.union .expr), .required "operator" .plain, .required "right" (.union .expr),
      .span]
  | negation => Slot.spanned "expr" (.union .expr)
  | membership =>
    [.required "left" (.union .expr), .required "right" (.union .expr), .flag "not", .span]
  | between =>
    [.required "left" (.union .expr), .required "between" (.union .expr),
      .required "and" (.union .expr), .flag "not", .span]
  | list => Slot.spanned "items" (.list (.union .expr))
  | function => [.required "name" .plain, .items "parameters" (.union .expr), .span]
  | aggregation =>
    [.required "aggregation_type" .plain, .flag "distinct", .items "parameters" (.union .expr),
      .span]
  | subquery => Slot.spanned "select" (.record .select)
  | existence => [.required "subquery" (.record .subquery), .flag "not", .span]
  | caseWhen =>
    [.nullable "case_expr" (.union .expr), .required "when_exprs" (.list (.union .expr)),
      .required "then_exprs" (.list (.union .expr)), .nullable "else_expr" (.union .expr), .span]
  | common => Slot.spanned "text" .plain
  | simpleTable =>
    [.nullable "owner" .plain, .required "name" .plain, .nullable "alias" .plain, .span]
  | joinTable =>
    [.required "left" (.union .table), .required "right" (.union .table),
      .required "join_type" .plain, .flag "natural", .nullable "condition" (.union .expr),
      .items "using" (.record .column), .span]
  | subqueryTable => aliased "subquery" (.record .subquery)
  | deleteMultiTable =>
    [.required "targets" (.list (.record .simpleTable)), .required "relation" (.union .table),
      .span]
  | columnProjection => aliased "column" (.record .column)
  | expressionProjection => aliased "expr" (.union .expr)
  | aggregationProjection => aliased "aggregation" (.record .aggregation)
  | shorthandProjection => [.nullable "owner" .plain, .span]
  | subqueryProjection => aliased "subquery" (.record .subquery)
  | selectList =>
    [.flag "distinct_row", .required "projections" (.list (.union .projection)), .span]
  | condition => Slot.spanned "expr" (.union .expr)
  | columnItem => item "column" (.record .column)
  | expressionItem => item "expr" (.union .expr)
  | indexItem => item "index" .plain
  | orderClause => Slot.spanned "items" (.list (.union .orderItem))
  | number => Slot.spanned "value" .plain
  | pageParameter => Slot.spanned "index" .plain
  | limit =>
    [.nullable "offset" (.union .pageValue), .nullable "row_count" (.union .pageValue), .span]
  | combine => [.required "combine_type" .plain, .required "select" (.record .subquery), .span]
  | assignment =>
    [.required "columns" (.list (.record .column)), .required "value" (.union .expr), .span]
  | setClause => Slot.spanned "assignments" (.list (.record .assignment))
  | valuesRow => Slot.spanned "values" (.list (.union .expr))
  | select =>
    [.nullable "projections" (.record .selectList), .nullable "from" (.union .table),
      .nullable "where_clause" (.record .condition), .nullable "group_by" (.record .orderClause),
      .nullable "having" (.record .condition), .nullable "order_by" (.record .orderClause),
      .nullable "limit" (.record .limit), .nullable "combine" (.record .combine), .span]
  | insert =>
    [.required "table" (.record .simpleTable), .items "columns" (.record .column),
      .items "values" (.record .valuesRow), .nullable "set_assignment" (.record .setClause),
      .nullable "select" (.record .subquery), .span]
  | update =>
    [.required "table" (.union .table), .required "set_assignment" (.record .setClause),
      .nullable "where_clause" (.record .condition), .nullable "order_by" (.record .orderClause),
      .nullable "limit" (.record .limit), .span]
  | delete =>
    [.required "table" (.union .table), .nullable "where_clause" (.record .condition),
      .nullable "order_by" (.record .orderClause), .nullable "limit" (.record .limit), .span]

end SegmentRecord

/-- The variants of every union. -/
def SegmentUnion.variants : SegmentUnion → List (String × SegmentRecord)
  | expr =>
    [("Column", .column), ("Literal", .literal), ("Parameter", .parameter), ("Binary", .binary),
      ("Not", .negation), ("In", .membership), ("Between", .between), ("List", .list),
      ("Function", .function), ("Aggregation", .aggregation), ("Subquery", .subquery),
      ("Exists", .existence), ("CaseWhen", .caseWhen), ("Common", .common)]
  | table =>
    [("Simple", .simpleTable), ("Join", .joinTable), ("Subquery", .subqueryTable),
      ("DeleteMultiTable", .deleteMultiTable)]
  | projection =>
    [("Column", .columnProjection), ("Expression", .expressionProjection),
      ("Aggregation", .aggregationProjection), ("Shorthand", .shorthandProjection),
      ("Subquery", .subqueryProjection)]
  | orderItem =>
    [("Column", .columnItem), ("Expression", .expressionItem), ("Index", .indexItem)]
  | pageValue => [("Number", .number), ("Parameter", .pageParameter)]
  | statement =>
    [("Select", .select), ("Insert", .insert), ("Update", .update), ("Delete", .delete)]

/-- The parts of statements. -/
def segments : Schema where
  Record := SegmentRecord
  Union := SegmentUnion
  slots := SegmentRecord.slots
  tag _ := "type"
  variants := SegmentUnion.variants
  names_nodup r := by cases r <;> decide
  tag_notMem u := by cases u <;> decide

variable {n : Nat}

/-! ## Parts that nest in no others -/

/-- A column is filled in from its fields. -/
theorem fills_column (c : Column) : Fills segments n column .column c.fields c where
  names := rfl
  read inner fields h := by
    obtain ⟨howner, hname, hspan, -⟩ := h
    exact record_eq_ok (((howner.optionalText.map Column.mk).seq hname.text).seq hspan.span)

theorem recovers_column (c : Column) : Recovers segments n column (.record .column) c.toJson c :=
  (fills_column c).recovers

theorem fills_simpleTable (t : SimpleTable) :
    Fills segments n simpleTable .simpleTable t.fields t where
  names := rfl
  read inner fields h := by
    obtain ⟨howner, hname, halias, hspan, -⟩ := h
    exact record_eq_ok ((((howner.optionalText.map SimpleTable.mk).seq hname.text).seq
      halias.optionalText).seq hspan.span)

theorem recovers_simpleTable (t : SimpleTable) :
    Recovers segments n simpleTable (.record .simpleTable) t.toJson t :=
  (fills_simpleTable t).recovers

theorem recovers_pageValue (v : PageValue) :
    Recovers segments (n + 1) pageValue (.union .pageValue) v.toJson v := by
  cases v with
  | number value s =>
    exact recovers_variant rfl rfl (fills_spanned rfl (recovers_unsigned64 "u64" value))
  | parameter index s =>
    exact recovers_variant rfl rfl (fills_spanned rfl (recovers_unsigned64 "usize" index))

theorem fills_limit (l : Limit) : Fills segments n limit .limit
    [("offset", .ofOption PageValue.toJson l.offset),
      ("row_count", .ofOption PageValue.toJson l.rowCount), ("span", l.span.toJson)] l where
  names := rfl
  read inner fields h := by
    obtain ⟨hoffset, hrows, hspan, -⟩ := h
    have hvalue : ∀ v : PageValue, Recovers segments n pageValue (.union .pageValue) v.toJson v :=
      fun v => (recovers_pageValue v).mono (Nat.le_succ n)
    have hnull : ∀ v : PageValue, v.toJson ≠ .null := fun v => by cases v <;> nofun
    exact record_eq_ok ((((hoffset.nullable hnull fun v _ => hvalue v).map Limit.mk).seq
      (hrows.nullable hnull fun v _ => hvalue v)).seq hspan.span)

theorem recovers_limit (l : Limit) : Recovers segments n limit (.record .limit) l.toJson l :=
  (fills_limit l).recovers

/-! ## Families of parts -/

section Families

variable {α : Type} {x : segments.Record} {name wanted : String} {shape : segments.Shape}
  {json : Json} {read : Reader α} {value : α} {s : Span}

/-- The parts that give a name to something. -/
theorem fills_aliased {β : Type} {build : α → Option String → Span → β}
    {aliasName : Option String} (hslots : segments.slots x = SegmentRecord.aliased name shape)
    (h : Recovers segments n read shape json value) :
    Fills segments n (record wanted 3 fun p =>
        build <$> p.required 0 name read
          <*> p.withDefault 1 "alias" (optional text) none
          <*> p.withDefault 2 "span" span .zero)
      x [(name, json), ("alias", .ofText? aliasName), ("span", s.toJson)]
      (build value aliasName s) where
  names := congrArg (List.map Slot.name) hslots.symm
  read inner fields hentries := by
    rw [hslots] at hentries
    obtain ⟨hvalue, halias, hspan, -⟩ := hentries
    exact record_eq_ok ((((hvalue.required h).map build).seq halias.optionalText).seq hspan.span)

/-- The sort items. -/
theorem fills_item {build : α → Direction → Option NullsOrder → Span → OrderItem}
    {d : Direction} {nulls : Option NullsOrder}
    (hslots : segments.slots x = SegmentRecord.item name shape)
    (h : Recovers segments n read shape json value) :
    Fills segments n (record wanted 4 fun p =>
        Readers.itemFields p (build <$> p.required 0 name read))
      x ((name, json) :: OrderItem.tailFields d nulls s) (build value d nulls s) where
  names := congrArg (List.map Slot.name) hslots.symm
  read inner fields hentries := by
    rw [hslots] at hentries
    obtain ⟨hvalue, hdirection, hnulls, hspan, -⟩ := hentries
    have hword : ∀ inner, direction inner (.string d.name) = .ok d := fun inner =>
      oneWord_name inner (by decide) (by cases d <;> decide)
    exact record_eq_ok (((((hvalue.required h).map build).seq
      (hdirection.plain hword rfl)).seq
      (hnulls.nullable (fun _ => nofun) fun o _ =>
        recovers_word (by decide) (by cases o <;> decide))).seq hspan.span)

end Families

/-! ## What is written for lists and optional parts -/

theorem exprsToJson_eq : ∀ es : List Expr, exprsToJson es = es.map Expr.toJson
  | [] => rfl
  | e :: es => congrArg (e.toJson :: ·) (exprsToJson_eq es)

theorem projectionsToJson_eq : ∀ ps : List Projection,
    projectionsToJson ps = ps.map Projection.toJson
  | [] => rfl
  | p :: ps => congrArg (p.toJson :: ·) (projectionsToJson_eq ps)

theorem orderItemsToJson_eq : ∀ items : List OrderItem,
    orderItemsToJson items = items.map OrderItem.toJson
  | [] => rfl
  | item :: items => congrArg (item.toJson :: ·) (orderItemsToJson_eq items)

theorem optionalExprToJson_eq (o : Option Expr) :
    optionalExprToJson o = .ofOption Expr.toJson o := by
  cases o <;> rfl

/-- Absent parts of a SELECT are written as `null`. -/
theorem selectFields_eq (projections : Option SelectList) (source : Option Table)
    (condition : Option Condition) (groupBy : Option OrderClause) (having : Option Condition)
    (orderBy : Option OrderClause) (limit : Option Limit) (combine : Option Combine) (s : Span) :
    Select.fields ⟨projections, source, condition, groupBy, having, orderBy, limit, combine, s⟩ =
      [("projections", .ofOption SelectList.toJson projections),
        ("from", .ofOption Table.toJson source),
        ("where_clause", .ofOption Condition.toJson condition),
        ("group_by", .ofOption OrderClause.toJson groupBy),
        ("having", .ofOption Condition.toJson having),
        ("order_by", .ofOption OrderClause.toJson orderBy),
        ("limit", .ofOption Limit.toJson limit),
        ("combine", .ofOption Combine.toJson combine), ("span", s.toJson)] := by
  have hlist : optionalListToJson projections = .ofOption SelectList.toJson projections := by
    cases projections <;> rfl
  have htable : optionalTableToJson source = .ofOption Table.toJson source := by
    cases source <;> rfl
  have hcondition (o) : optionalConditionToJson o = .ofOption Condition.toJson o := by
    cases o <;> rfl
  have hclause (o) : optionalClauseToJson o = .ofOption OrderClause.toJson o := by
    cases o <;> rfl
  have hcombine : optionalCombineToJson combine = .ofOption Combine.toJson combine := by
    cases combine <;> rfl
  rw [Select.fields, hlist, htable, hcondition, hclause, hcondition, hclause, hcombine]

/-- No expression is written as `null`. -/
theorem exprToJson_ne_null (e : Expr) : e.toJson ≠ .null := by
  cases e <;> nofun

theorem tableToJson_ne_null (t : Table) : t.toJson ≠ .null := by
  cases t <;> nofun

/-! ## Parts that nest in one another -/

/-- The readers recover everything that has at most `n` levels. -/
structure Readers.Recover (r : Readers) (n : Nat) : Prop where
  expr : ∀ e : Expr, Recovers segments n r.expr (.union .expr) e.toJson e
  table : ∀ t : Table, Recovers segments n r.table (.union .table) t.toJson t
  projection : ∀ p : Projection,
    Recovers segments n r.projection (.union .projection) p.toJson p
  select : ∀ s : Select, Recovers segments n r.select (.record .select) s.toJson s

namespace Readers.Recover

variable {r : Readers} (hr : r.Recover n)

include hr

theorem exprs (es : List Expr) :
    Recovers segments n (listOf r.expr) (.list (.union .expr)) (.array (exprsToJson es)) es := by
  rw [exprsToJson_eq]
  exact recovers_list fun e _ => hr.expr e

theorem fills_subquery : ∀ q : Subquery, Fills segments n r.subquery .subquery q.fields q
  | ⟨select, _⟩ => fills_spanned rfl (hr.select select)

theorem subquery (q : Subquery) :
    Recovers segments n r.subquery (.record .subquery) (.object q.fields) q :=
  (hr.fills_subquery q).recovers

theorem fills_aggregation (a : Aggregation) :
    Fills segments n r.aggregation .aggregation a.fields a := by
  obtain ⟨function, distinct, arguments, s⟩ := a
  refine ⟨rfl, fun inner fields h => ?_⟩
  obtain ⟨hfunction, hdistinct, harguments, hspan, -⟩ := h
  rw [exprsToJson_eq] at harguments
  have hword : Recovers segments n aggregateFunction .plain (.string function.name) function :=
    recovers_word (by decide) (by cases function <;> decide)
  exact record_eq_ok (((((hfunction.required hword).map Aggregation.mk).seq hdistinct.flag).seq
    (harguments.items fun e _ => hr.expr e)).seq hspan.span)

theorem aggregation (a : Aggregation) :
    Recovers segments n r.aggregation (.record .aggregation) (.object a.fields) a :=
  (hr.fills_aggregation a).recovers

/-! ### Expressions -/

theorem fills_binary (left right : Expr) (op : String) (s : Span) :
    Fills segments n r.binaryExpr .binary
      [("left", left.toJson), ("operator", .string op), ("right", right.toJson),
        ("span", s.toJson)] (.binary left op right s) where
  names := rfl
  read inner fields h := by
    obtain ⟨hleft, hop, hright, hspan, -⟩ := h
    exact record_eq_ok (((((hleft.required (hr.expr left)).map Expr.binary).seq hop.text).seq
      (hright.required (hr.expr right))).seq hspan.span)

theorem fills_membership (left right : Expr) (negated : Bool) (s : Span) :
    Fills segments n r.membershipExpr .membership
      [("left", left.toJson), ("right", right.toJson), ("not", .bool negated),
        ("span", s.toJson)] (.membership left right negated s) where
  names := rfl
  read inner fields h := by
    obtain ⟨hleft, hright, hnot, hspan, -⟩ := h
    exact record_eq_ok (((((hleft.required (hr.expr left)).map Expr.membership).seq
      (hright.required (hr.expr right))).seq hnot.flag).seq hspan.span)

theorem fills_between (operand low high : Expr) (negated : Bool) (s : Span) :
    Fills segments n r.betweenExpr .between
      [("left", operand.toJson), ("between", low.toJson), ("and", high.toJson),
        ("not", .bool negated), ("span", s.toJson)] (.between operand low high negated s) where
  names := rfl
  read inner fields h := by
    obtain ⟨hleft, hlow, hhigh, hnot, hspan, -⟩ := h
    exact record_eq_ok ((((((hleft.required (hr.expr operand)).map Expr.between).seq
      (hlow.required (hr.expr low))).seq (hhigh.required (hr.expr high))).seq hnot.flag).seq
      hspan.span)

theorem fills_function (name : String) (arguments : List Expr) (s : Span) :
    Fills segments n r.functionExpr .function
      [("name", .string name), ("parameters", .array (exprsToJson arguments)),
        ("span", s.toJson)] (.function name arguments s) where
  names := rfl
  read inner fields h := by
    obtain ⟨hname, harguments, hspan, -⟩ := h
    rw [exprsToJson_eq] at harguments
    exact record_eq_ok (((hname.text.map Expr.function).seq
      (harguments.items fun e _ => hr.expr e)).seq hspan.span)

theorem fills_existence (q : Subquery) (negated : Bool) (s : Span) :
    Fills segments n r.existenceExpr .existence
      [("subquery", .object q.fields), ("not", .bool negated), ("span", s.toJson)]
      (.existence q negated s) where
  names := rfl
  read inner fields h := by
    obtain ⟨hquery, hnot, hspan, -⟩ := h
    exact record_eq_ok ((((hquery.required (hr.subquery q)).map Expr.existence).seq
      hnot.flag).seq hspan.span)

/-- A CASE is filled in from its fields; its operand and its default may be absent. -/
theorem fills_caseWhen (operand : Option Expr) (whens thens : List Expr)
    (otherwise : Option Expr) (s : Span) :
    Fills segments n r.caseWhenExpr .caseWhen
      [("case_expr", optionalExprToJson operand), ("when_exprs", .array (exprsToJson whens)),
        ("then_exprs", .array (exprsToJson thens)), ("else_expr", optionalExprToJson otherwise),
        ("span", s.toJson)] (.caseWhen operand whens thens otherwise s) where
  names := rfl
  read inner fields h := by
    obtain ⟨hoperand, hwhens, hthens, hotherwise, hspan, -⟩ := h
    rw [optionalExprToJson_eq] at hoperand hotherwise
    exact record_eq_ok ((((((hoperand.nullable exprToJson_ne_null fun e _ => hr.expr e).map
      Expr.caseWhen).seq (hwhens.required (hr.exprs whens))).seq
      (hthens.required (hr.exprs thens))).seq
      (hotherwise.nullable exprToJson_ne_null fun e _ => hr.expr e)).seq hspan.span)

/-- Every expression is recovered with one level more than its parts. -/
theorem anyExpr (e : Expr) :
    Recovers segments (n + 1) r.anyExpr (.union .expr) e.toJson e := by
  cases e with
  | column c => exact recovers_variant rfl rfl ((fills_column c).map Expr.column)
  | literal value s =>
    exact recovers_variant rfl rfl (fills_spanned rfl (recovers_literal value))
  | parameter index s =>
    exact recovers_variant rfl rfl (fills_spanned rfl (recovers_unsigned64 "usize" index))
  | binary left op right s => exact recovers_variant rfl rfl (hr.fills_binary left right op s)
  | negation operand s => exact recovers_variant rfl rfl (fills_spanned rfl (hr.expr operand))
  | membership left right negated s =>
    exact recovers_variant rfl rfl (hr.fills_membership left right negated s)
  | between operand low high negated s =>
    exact recovers_variant rfl rfl (hr.fills_between operand low high negated s)
  | list items s => exact recovers_variant rfl rfl (fills_spanned rfl (hr.exprs items))
  | function name arguments s =>
    exact recovers_variant rfl rfl (hr.fills_function name arguments s)
  | aggregation call =>
    exact recovers_variant rfl rfl ((hr.fills_aggregation call).map Expr.aggregation)
  | subquery q => exact recovers_variant rfl rfl ((hr.fills_subquery q).map Expr.subquery)
  | existence q negated s => exact recovers_variant rfl rfl (hr.fills_existence q negated s)
  | caseWhen operand whens thens otherwise s =>
    exact recovers_variant rfl rfl (hr.fills_caseWhen operand whens thens otherwise s)
  | common text s => exact recovers_variant rfl rfl (fills_spanned rfl (recovers_text text))

/-! ### Tables -/

/-- A join is filled in from its fields. -/
theorem fills_join (left right : Table) (type : JoinType) (natural : Bool)
    (condition : Option Expr) (columns : List Column) (s : Span) :
    Fills segments n r.joinTable .joinTable
      [("left", left.toJson), ("right", right.toJson), ("join_type", .string type.name),
        ("natural", .bool natural), ("condition", optionalExprToJson condition),
        ("using", .ofList Column.toJson columns), ("span", s.toJson)]
      (.join left right type natural condition columns s) where
  names := rfl
  read inner fields h := by
    obtain ⟨hleft, hright, htype, hnatural, hcondition, hcolumns, hspan, -⟩ := h
    rw [optionalExprToJson_eq] at hcondition
    exact record_eq_ok ((((((((hleft.required (hr.table left)).map Table.join).seq
      (hright.required (hr.table right))).seq (htype.required (recovers_joinType type))).seq
      hnatural.flag).seq (hcondition.nullable exprToJson_ne_null fun e _ => hr.expr e)).seq
      (hcolumns.items fun c _ => recovers_column c)).seq hspan.span)

theorem fills_deleteMulti (targets : List SimpleTable) (relation : Table) (s : Span) :
    Fills segments n r.deleteMultiTable .deleteMultiTable
      [("targets", .ofList SimpleTable.toJson targets), ("relation", relation.toJson),
        ("span", s.toJson)] (.deleteMulti targets relation s) where
  names := rfl
  read inner fields h := by
    obtain ⟨htargets, hrelation, hspan, -⟩ := h
    exact record_eq_ok ((((htargets.required (recovers_list fun t _ => recovers_simpleTable t)).map
      Table.deleteMulti).seq (hrelation.required (hr.table relation))).seq hspan.span)

/-- Every table is recovered with one level more than its parts. -/
theorem anyTable (t : Table) :
    Recovers segments (n + 1) r.anyTable (.union .table) t.toJson t := by
  cases t with
  | simple t => exact recovers_variant rfl rfl ((fills_simpleTable t).map Table.simple)
  | join left right type natural condition columns s =>
    exact recovers_variant rfl rfl
      (hr.fills_join left right type natural condition columns s)
  | subquery q aliasName s => exact recovers_variant rfl rfl (fills_aliased rfl (hr.subquery q))
  | deleteMulti targets relation s =>
    exact recovers_variant rfl rfl (hr.fills_deleteMulti targets relation s)

/-! ### Select lists -/

omit hr in
theorem fills_shorthand (owner : Option String) (s : Span) :
    Fills segments n shorthandProjection .shorthandProjection
      [("owner", .ofText? owner), ("span", s.toJson)] (.shorthand owner s) where
  names := rfl
  read inner fields h := by
    obtain ⟨howner, hspan, -⟩ := h
    exact record_eq_ok ((howner.optionalText.map Projection.shorthand).seq hspan.span)

/-- Every item is recovered with one level more than its parts. -/
theorem anyProjection (p : Projection) :
    Recovers segments (n + 1) r.anyProjection (.union .projection) p.toJson p := by
  cases p with
  | column c aliasName s => exact recovers_variant rfl rfl (fills_aliased rfl (recovers_column c))
  | expression e aliasName s => exact recovers_variant rfl rfl (fills_aliased rfl (hr.expr e))
  | aggregation call aliasName s =>
    exact recovers_variant rfl rfl (fills_aliased rfl (hr.aggregation call))
  | shorthand owner s => exact recovers_variant rfl rfl (fills_shorthand owner s)
  | subquery q aliasName s => exact recovers_variant rfl rfl (fills_aliased rfl (hr.subquery q))

/-- A select list is recovered by readers that recover its items. -/
theorem selectList (l : SelectList) :
    Recovers segments n r.selectList (.record .selectList) l.toJson l := by
  obtain ⟨distinct, items, s⟩ := l
  refine Fills.recovers ⟨rfl, fun inner fields h => ?_⟩
  obtain ⟨hdistinct, hitems, hspan, -⟩ := h
  rw [projectionsToJson_eq] at hitems
  exact record_eq_ok (((hdistinct.flag.map SelectList.mk).seq
    (hitems.required (recovers_list fun p _ => hr.projection p))).seq hspan.span)

/-! ### Clauses -/

theorem condition (wanted : String) :
    ∀ c : Condition, Recovers segments n (r.condition wanted) (.record .condition) c.toJson c
  | ⟨e, _⟩ => (fills_spanned rfl (hr.expr e)).recovers

/-- Every item of ORDER BY is recovered with one level more than its key. -/
theorem orderItem (item : OrderItem) :
    Recovers segments (n + 1) r.orderItem (.union .orderItem) item.toJson item := by
  cases item with
  | column c d nulls s => exact recovers_variant rfl rfl (fills_item rfl (recovers_column c))
  | expression e d nulls s => exact recovers_variant rfl rfl (fills_item rfl (hr.expr e))
  | ordinal index d nulls s =>
    exact recovers_variant rfl rfl (fills_item rfl (recovers_unsigned64 "u64" index))

/-- A clause of keys is recovered by readers that recover its keys. -/
theorem orderClause (wanted : String) (c : OrderClause) :
    Recovers segments n (r.orderClause wanted) (.record .orderClause) c.toJson c := by
  obtain ⟨items, s⟩ := c
  have hitems : Recovers segments n (listOf r.orderItem) (.list (.union .orderItem))
      (.array (orderItemsToJson items)) items := by
    rw [orderItemsToJson_eq]
    exact recovers_list fun item _ => (hr.orderItem item).mono (Nat.le_succ n)
  exact (fills_spanned rfl hitems).recovers

/-- A set operation is recovered by readers that recover its SELECT. -/
theorem combine (c : Combine) :
    Recovers segments n r.combine (.record .combine) c.toJson c := by
  obtain ⟨type, q, s⟩ := c
  refine Fills.recovers ⟨rfl, fun inner fields h => ?_⟩
  obtain ⟨htype, hselect, hspan, -⟩ := h
  have hword : Recovers segments n combineType .plain (.string type.name) type :=
    recovers_word (by decide) (by cases type <;> decide)
  exact record_eq_ok ((((htype.required hword).map Combine.mk).seq
    (hselect.required (hr.subquery q))).seq hspan.span)

/-! ### SELECTs -/

/-- A SELECT is filled in from its fields, each of which may be absent. -/
theorem fills_select (s : Select) : Fills segments n r.anySelect .select s.fields s := by
  obtain ⟨projections, source, condition, groupBy, having, orderBy, limit, combine, s⟩ := s
  rw [selectFields_eq]
  refine ⟨rfl, fun inner fields h => ?_⟩
  obtain ⟨hprojections, hsource, hcondition, hgroupBy, hhaving, horderBy, hlimit, hcombine, hspan,
    -⟩ := h
  exact record_eq_ok ((((((((((
    hprojections.nullable (fun ⟨_, _, _⟩ => nofun) fun l _ => hr.selectList l).map Select.mk).seq
    (hsource.nullable tableToJson_ne_null fun t _ => hr.table t)).seq
    (hcondition.nullable (fun ⟨_, _⟩ => nofun) fun c _ => hr.condition _ c)).seq
    (hgroupBy.nullable (fun ⟨_, _⟩ => nofun) fun c _ => hr.orderClause _ c)).seq
    (hhaving.nullable (fun ⟨_, _⟩ => nofun) fun c _ => hr.condition _ c)).seq
    (horderBy.nullable (fun ⟨_, _⟩ => nofun) fun c _ => hr.orderClause _ c)).seq
    (hlimit.nullable (fun _ => nofun) fun l _ => recovers_limit l)).seq
    (hcombine.nullable (fun ⟨_, _, _⟩ => nofun) fun c _ => hr.combine c)).seq hspan.span)

/-- Readers that recover everything of `n` levels make readers for one level more. -/
theorem deeper : r.deeper.Recover (n + 1) where
  expr := hr.anyExpr
  table := hr.anyTable
  projection := hr.anyProjection
  select s := recovers_record (hr.fills_select s)

end Readers.Recover

/-- Readers of any number of levels recover everything that is no deeper. -/
theorem recover_readersAt : ∀ n, (readersAt n).Recover n
  | 0 =>
    { expr _ := recovers_zero
      table _ := recovers_zero
      projection _ := recovers_zero
      select _ := recovers_zero }
  | n + 1 => (recover_readersAt n).deeper

/-- A reader with as many levels as a value has recovers what the readers of each level do. -/
theorem recovers_within {α : Type} {read : Readers → Reader α} {shape : segments.Shape}
    {json : Json} {a : α}
    (h : ∀ {r : Readers} {m}, r.Recover m → Recovers segments m (read r) shape json a) :
    Recovers segments n (within read) shape json a :=
  fun inner j hj _ => h (recover_readersAt j.depth) inner j hj (Nat.le_refl _)

/-- An expression of any depth is recovered. -/
theorem recovers_expr (e : Expr) : Recovers segments n expr (.union .expr) e.toJson e :=
  recovers_within fun hr => hr.expr e

theorem recovers_table (t : Table) : Recovers segments n table (.union .table) t.toJson t :=
  recovers_within fun hr => hr.table t

theorem recovers_exprs (es : List Expr) :
    Recovers segments n (listOf expr) (.list (.union .expr)) (.ofList Expr.toJson es) es :=
  recovers_list fun e _ => recovers_expr e

theorem recovers_columns (cs : List Column) :
    Recovers segments n (listOf column) (.list (.record .column)) (.ofList Column.toJson cs) cs :=
  recovers_list fun c _ => recovers_column c

/-! ## Statements -/

theorem recovers_assignment (a : Assignment) :
    Recovers segments n assignment (.record .assignment) a.toJson a := by
  refine Fills.recovers ⟨rfl, fun inner fields h => ?_⟩
  obtain ⟨hcolumns, hvalue, hspan, -⟩ := h
  exact record_eq_ok ((((hcolumns.required (recovers_columns a.columns)).map Assignment.mk).seq
    (hvalue.required (recovers_expr a.value))).seq hspan.span)

theorem recovers_setClause (s : SetClause) :
    Recovers segments n setClause (.record .setClause) s.toJson s :=
  (fills_spanned rfl (recovers_list fun a _ => recovers_assignment a)).recovers

theorem recovers_valuesRow (v : ValuesRow) :
    Recovers segments n valuesRow (.record .valuesRow) v.toJson v :=
  (fills_spanned rfl (recovers_exprs v.values)).recovers

/-- An INSERT is filled in from its fields. -/
theorem fills_insert (s : Insert) :
    Fills segments n insert .insert
      [("table", s.table.toJson), ("columns", .ofList Column.toJson s.columns),
        ("values", .ofList ValuesRow.toJson s.rows),
        ("set_assignment", .ofOption SetClause.toJson s.set),
        ("select", .ofOption (fun q => .object q.fields) s.query), ("span", s.span.toJson)]
      s where
  names := rfl
  read inner fields h := by
    obtain ⟨htable, hcolumns, hrows, hset, hquery, hspan, -⟩ := h
    exact record_eq_ok (((((((htable.required (recovers_simpleTable s.table)).map Insert.mk).seq
      (hcolumns.items fun c _ => recovers_column c)).seq
      (hrows.items fun v _ => recovers_valuesRow v)).seq
      (hset.nullable (fun _ => nofun) fun s _ => recovers_setClause s)).seq
      (hquery.nullable (fun _ => nofun) fun q _ => recovers_within fun hr => hr.subquery q)).seq
      hspan.span)

theorem fills_update (s : Update) :
    Fills segments n update .update
      [("table", s.table.toJson), ("set_assignment", s.set.toJson),
        ("where_clause", .ofOption Condition.toJson s.condition),
        ("order_by", .ofOption OrderClause.toJson s.orderBy),
        ("limit", .ofOption Limit.toJson s.limit), ("span", s.span.toJson)] s where
  names := rfl
  read inner fields h := by
    obtain ⟨htable, hset, hcondition, horderBy, hlimit, hspan, -⟩ := h
    exact record_eq_ok (((((((htable.required (recovers_table s.table)).map Update.mk).seq
      (hset.required (recovers_setClause s.set))).seq
      (hcondition.nullable (fun ⟨_, _⟩ => nofun) fun c _ =>
        recovers_within fun hr => hr.condition _ c)).seq
      (horderBy.nullable (fun ⟨_, _⟩ => nofun) fun c _ =>
        recovers_within fun hr => hr.orderClause _ c)).seq
      (hlimit.nullable (fun _ => nofun) fun l _ => recovers_limit l)).seq hspan.span)

theorem fills_delete (s : Delete) :
    Fills segments n delete .delete
      [("table", s.table.toJson), ("where_clause", .ofOption Condition.toJson s.condition),
        ("order_by", .ofOption OrderClause.toJson s.orderBy),
        ("limit", .ofOption Limit.toJson s.limit), ("span", s.span.toJson)] s where
  names := rfl
  read inner fields h := by
    obtain ⟨htable, hcondition, horderBy, hlimit, hspan, -⟩ := h
    exact record_eq_ok ((((((htable.required (recovers_table s.table)).map Delete.mk).seq
      (hcondition.nullable (fun ⟨_, _⟩ => nofun) fun c _ =>
        recovers_within fun hr => hr.condition _ c)).seq
      (horderBy.nullable (fun ⟨_, _⟩ => nofun) fun c _ =>
        recovers_within fun hr => hr.orderClause _ c)).seq
      (hlimit.nullable (fun _ => nofun) fun l _ => recovers_limit l)).seq hspan.span)

/-- A statement is recovered as what its tag says. -/
theorem recovers_statement (st : Statement) :
    Recovers segments (n + 1) statement (.union .statement) st.toJson st := by
  cases st with
  | select s =>
    have hselect : Recovers segments (n + 1) select (.record .select) s.toJson s :=
      recovers_within fun hr => hr.select s
    have hnames : s.fields.map Prod.fst = (segments.slots .select).map Slot.name := by
      cases s
      rfl
    exact recovers_tagged rfl rfl hnames (hselect.map Statement.select)
  | insert s => exact recovers_variant rfl rfl ((fills_insert s).map Statement.insert)
  | update s => exact recovers_variant rfl rfl ((fills_update s).map Statement.update)
  | delete s => exact recovers_variant rfl rfl ((fills_delete s).map Statement.delete)

/-- A statement is read back from the JSON value that is written for it, whole or abridged: any
fields that have a default and hold it may be left out, at any depth, and the fields of a part
may be put in any order. The text of the value is not looked at. -/
theorem statement_abridged (st : Statement) (inner : Bool) :
    statement inner st.toJson = .ok st ∧
      ∀ json, segments.Abridged (.union .statement) st.toJson json →
        statement inner json = .ok st := by
  have h : ∀ json, segments.Abridged (.union .statement) st.toJson json →
      statement inner json = .ok st := fun json hjson =>
    recovers_statement st inner json hjson (Nat.le_succ json.depth)
  exact ⟨h _ (.same _ _), h⟩

/-- `DELETE FROM t` without the fields that hold their default. -/
theorem statement_abridged_delete :
    statement false (.object [("type", .string "Delete"),
      ("table", .object [("type", .string "Simple"), ("name", .string "t")])]) =
      .ok (.delete ⟨.simple ⟨none, "t", none, .zero⟩, none, none, none, .zero⟩) := by
  refine (statement_abridged _ false).2 _ (.variant rfl (.keep ?table (.drop rfl (.drop rfl
    (.drop rfl (.drop rfl .nil))))) (.refl _))
  exact .variant rfl (.drop rfl (.keep (.same _ _) (.drop rfl (.drop rfl .nil)))) (.refl _)

end SqlAlgebra.Wire
