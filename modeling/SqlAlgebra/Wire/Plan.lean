import SqlAlgebra.Wire.Segment

/-!
# Plans as JSON

How plans are written as JSON, and read back. A call is refused if its operator does not
accept the number of its operands, so every plan that is read satisfies the arities of its
operators. Plans nest, so their reader is built level by level.
-/

namespace SqlAlgebra

namespace Wire

/-- Reads an operator by its name. -/
def operator : Reader Operator := fun inner json => (text inner json).map Operator.ofName

/-- Reads the content of a join condition of a form. -/
def joinContent (plan : Reader Plan) (form : String) : Reader JoinCondition := fun inner json =>
  match form with
  | "On" => (plan inner json).map .condition
  | "Using" => (listOf text inner json).map .columns
  | _ =>
    match json with
    | .null => .ok .none
    | json => .error (.wrongType json "unit variant JoinCondition::None")

/-- The forms of a join condition. -/
def joinForms : List String := ["None", "On", "Using"]

/-- Reads what a join matches rows by: a form and its content side by side. -/
def joinCondition (plan : Reader Plan) : Reader JoinCondition
  | inner, .object fields =>
    match Parts.occurrences "type" fields 0, Parts.occurrences "value" fields 0 with
    | [], _ => .error (.missingField "type")
    | [(_, form)], [] =>
      match oneWord joinForms id inner form with
      | .error e => .error e
      | .ok "None" => .ok .none
      | .ok _ => .error (.missingField "value")
    | [(_, form)], [(_, content)] =>
      match oneWord joinForms id inner form with
      | .error e => .error e
      | .ok form => joinContent plan form inner content
    | [_], _ => .error (.duplicateField "value")
    | _, _ => .error (.duplicateField "type")
  | inner, .array (form :: rest) =>
    match oneWord joinForms id inner form with
    | .error e => .error e
    | .ok form =>
      match rest with
      | [] => .error (.wrongLength 1 "adjacently tagged enum JoinCondition")
      | content :: more =>
        match joinContent plan form inner content with
        | .error e => .error e
        | .ok c =>
          if more.isEmpty then .ok c
          else .error (.wrongLength (more.length + 2) "2 elements in sequence")
  | _, .array [] => .error (.wrongLength 0 "adjacently tagged enum JoinCondition")
  | _, json => .error (.wrongType json "adjacently tagged enum JoinCondition")

/-- Reads a call, checking the number of its operands. -/
def call (plan : Reader Plan) : Reader Plan := fun inner json =>
  let parts := record "struct RawCall" 4 fun p =>
    Plan.apply <$> p.required 0 "operator" operator
      <*> p.required 1 "operands" (listOf plan)
      <*> p.withDefault 2 "distinct" flag false
      <*> p.withDefault 3 "span" span .zero
  match parts inner json with
  | .error e => .error e
  | .ok (.ok c) => .ok c
  | .ok (.error e) => .error (.wrongArity e)

/-- Reads a plan whose parts are read by `plan`. -/
def planOver (plan : Reader Plan) : Reader Plan :=
  tagged "node" "internally tagged enum RelNode"
    [("Scan", record "struct variant RelNode::Scan" 2 fun p =>
        Plan.scan <$> p.required 0 "table" (listOf text) <*> p.withDefault 1 "span" span .zero),
      ("Project", record "struct variant RelNode::Project" 3 fun p =>
        Plan.project <$> p.required 0 "input" plan
          <*> p.required 1 "exprs" (listOf plan)
          <*> p.withDefault 2 "distinct" flag false),
      ("Filter", record "struct variant RelNode::Filter" 2 fun p =>
        Plan.filter <$> p.required 0 "input" plan <*> p.required 1 "condition" plan),
      ("Join", record "struct variant RelNode::Join" 5 fun p =>
        Plan.join <$> p.required 0 "left" plan
          <*> p.required 1 "right" plan
          <*> p.required 2 "kind" joinType
          <*> p.withDefault 3 "natural" flag false
          <*> p.required 4 "condition" (joinCondition plan)),
      ("SetOp", record "struct variant RelNode::SetOp" 4 fun p =>
        Plan.setOp <$> p.required 0 "kind" (oneWord SetOperation.all SetOperation.name)
          <*> p.required 1 "all" flag
          <*> p.required 2 "left" plan
          <*> p.required 3 "right" plan),
      ("Aggregate", record "struct variant RelNode::Aggregate" 2 fun p =>
        Plan.aggregate <$> p.required 0 "input" plan <*> p.required 1 "group_by" (listOf plan)),
      ("Sort", record "struct variant RelNode::Sort" 4 fun p =>
        Plan.sort <$> p.required 0 "input" plan
          <*> p.required 1 "order_by" (listOf plan)
          <*> p.withDefault 2 "offset" (optional plan) none
          <*> p.withDefault 3 "fetch" (optional plan) none),
      ("Values", record "struct variant RelNode::Values" 1 fun p =>
        Plan.values <$> p.required 0 "rows" (listOf (listOf plan))),
      ("TableModify", record "struct variant RelNode::TableModify" 6 fun p =>
        Plan.modify <$> p.required 0 "operation" (oneWord Modification.all Modification.name)
          <*> p.required 1 "target" plan
          <*> p.withDefault 2 "columns" (listOf plan) []
          <*> p.withDefault 3 "source" (optional plan) none
          <*> p.withDefault 4 "expressions" (listOf plan) []
          <*> p.withDefault 5 "condition" (optional plan) none),
      ("Call", call plan),
      ("Identifier", record "struct variant RelNode::Identifier" 2 fun p =>
        Plan.identifier <$> p.required 0 "names" (listOf text)
          <*> p.withDefault 1 "span" span .zero),
      ("Literal", record "struct variant RelNode::Literal" 2 fun p =>
        Plan.literal <$> p.required 0 "value" literal <*> p.withDefault 1 "span" span .zero),
      ("DynamicParam", record "struct variant RelNode::DynamicParam" 2 fun p =>
        Plan.parameter <$> p.required 0 "index" size <*> p.withDefault 1 "span" span .zero),
      ("List", record "struct variant RelNode::List" 2 fun p =>
        Plan.list <$> p.required 0 "items" (listOf plan) <*> p.withDefault 1 "span" span .zero)]

/-- Reads plans of at most `n` levels. -/
def planAt : Nat → Reader Plan
  | 0, _, _ => .error .tooDeep
  | n + 1, inner, json => planOver (planAt n) inner json

/-- Reads a plan. -/
def plan : Reader Plan := fun inner json => planAt json.depth inner json

end Wire

namespace Plan

mutual

/-- A plan as JSON. -/
def toJson : Plan → Json
  | scan table span =>
    .object [("node", .string "Scan"), ("table", .ofStrings table), ("span", span.toJson)]
  | project input exprs distinct =>
    .object [("node", .string "Project"), ("input", input.toJson),
      ("exprs", .array (toJsonAll exprs)), ("distinct", .bool distinct)]
  | filter input condition =>
    .object [("node", .string "Filter"), ("input", input.toJson),
      ("condition", condition.toJson)]
  | join left right type natural condition =>
    .object [("node", .string "Join"), ("left", left.toJson), ("right", right.toJson),
      ("kind", .string type.name), ("natural", .bool natural),
      ("condition", conditionToJson condition)]
  | setOp operation all left right =>
    .object [("node", .string "SetOp"), ("kind", .string operation.name), ("all", .bool all),
      ("left", left.toJson), ("right", right.toJson)]
  | aggregate input groupBy =>
    .object [("node", .string "Aggregate"), ("input", input.toJson),
      ("group_by", .array (toJsonAll groupBy))]
  | sort input orderBy offset fetch =>
    .object [("node", .string "Sort"), ("input", input.toJson),
      ("order_by", .array (toJsonAll orderBy)), ("offset", optionToJson offset),
      ("fetch", optionToJson fetch)]
  | values rows => .object [("node", .string "Values"), ("rows", .array (toJsonRows rows))]
  | modify operation target columns source expressions condition =>
    .object [("node", .string "TableModify"), ("operation", .string operation.name),
      ("target", target.toJson), ("columns", .array (toJsonAll columns)),
      ("source", optionToJson source), ("expressions", .array (toJsonAll expressions)),
      ("condition", optionToJson condition)]
  | call op operands distinct span =>
    .object [("node", .string "Call"), ("operator", .string op.name),
      ("operands", .array (toJsonAll operands)), ("distinct", .bool distinct),
      ("span", span.toJson)]
  | identifier names span =>
    .object [("node", .string "Identifier"), ("names", .ofStrings names),
      ("span", span.toJson)]
  | literal value span =>
    .object [("node", .string "Literal"), ("value", value.toJson), ("span", span.toJson)]
  | parameter index span =>
    .object [("node", .string "DynamicParam"), ("index", .ofNat index.toNat),
      ("span", span.toJson)]
  | list items span =>
    .object [("node", .string "List"), ("items", .array (toJsonAll items)),
      ("span", span.toJson)]

/-- Plans as JSON. -/
def toJsonAll : List Plan → List Json
  | [] => []
  | plan :: plans => plan.toJson :: toJsonAll plans

/-- Rows of plans as JSON. -/
def toJsonRows : List (List Plan) → List Json
  | [] => []
  | row :: rows => .array (toJsonAll row) :: toJsonRows rows

/-- An optional plan as JSON. -/
def optionToJson : Option Plan → Json
  | none => .null
  | some plan => plan.toJson

/-- A join condition as JSON. -/
def conditionToJson : JoinCondition → Json
  | .none => .object [("type", .string "None")]
  | .condition plan => .object [("type", .string "On"), ("value", plan.toJson)]
  | .columns names => .object [("type", .string "Using"), ("value", .ofStrings names)]

end

end Plan

end SqlAlgebra
