import SqlAlgebra.Plan.Basic

/-!
# Plans as text

`Plan.render` writes a plan on one line, for instance `AS(EXPLICIT_TABLE(Scan(t)))`.
`Plan.indented` gives every relational operator a line of its own, its inputs two spaces
deeper, with scalar parts written inline: a line is the node's `label` or, for a scalar
node, its one-line rendering. A quote inside a
string literal is written twice.
-/

namespace SqlAlgebra

/-- The characters of a string literal between its quotes. -/
def Literal.doubleQuotes : List Char → List Char
  | [] => []
  | c :: cs => if c = '\'' then '\'' :: '\'' :: doubleQuotes cs else c :: doubleQuotes cs

/-- A literal as SQL text. -/
def Literal.render : Literal → String
  | null => "NULL"
  | boolean true => "TRUE"
  | boolean false => "FALSE"
  | integer i => i.toInt.repr
  | decimal text => text
  | string s => String.ofList ('\'' :: doubleQuotes s.toList ++ ['\''])

/-- A join in plans: its type, with `NATURAL` in front if it is one. -/
def JoinType.label (type : JoinType) (natural : Bool) : String :=
  if natural then "NATURAL " ++ type.name else type.name

/-- A set operation in plans: its word, with `ALL` after it if it keeps duplicates. -/
def SetOperation.label (operation : SetOperation) (all : Bool) : String :=
  if all then operation.name ++ " ALL" else operation.name

namespace Plan

/-- Texts separated by commas. -/
def commas (texts : List String) : String := ", ".intercalate texts

/-- Texts separated by commas, in square brackets. -/
def bracketed (texts : List String) : String := "[" ++ commas texts ++ "]"

/-- The mark of a node that drops duplicates. -/
def distinctMark (distinct : Bool) : String := if distinct then "DISTINCT " else ""

/-- A text in front of another one, and nothing in front of nothing. -/
def labelled (label : String) (text : Option String) : String :=
  match text with
  | none => ""
  | some text => label ++ text

/-- A list in brackets behind a label, and nothing for an empty list. -/
def labelledList (label : String) (texts : List String) : String :=
  if texts.isEmpty then "" else label ++ bracketed texts

mutual

/-- A plan on one line. -/
def render : Plan → String
  | scan table _ => "Scan(" ++ ".".intercalate table ++ ")"
  | project input exprs distinct =>
    "Project(" ++ distinctMark distinct ++ bracketed (renderAll exprs) ++ ", " ++
      input.render ++ ")"
  | filter input condition => "Filter(" ++ condition.render ++ ", " ++ input.render ++ ")"
  | join left right type natural condition =>
    "Join(" ++ type.label natural ++ ", " ++ left.render ++ ", " ++ right.render ++
      labelled ", " (renderCondition condition) ++ ")"
  | setOp operation all left right =>
    "SetOp(" ++ operation.label all ++ ", " ++ left.render ++ ", " ++ right.render ++ ")"
  | aggregate input groupBy =>
    "Aggregate(" ++ bracketed (renderAll groupBy) ++ ", " ++ input.render ++ ")"
  | sort input orderBy offset fetch =>
    "Sort(" ++ bracketed (renderAll orderBy) ++ labelled ", offset=" (renderOption offset) ++
      labelled ", fetch=" (renderOption fetch) ++ ", " ++ input.render ++ ")"
  | values rows => "Values(" ++ commas (renderRows rows) ++ ")"
  | modify operation target columns source expressions condition =>
    "TableModify(" ++ operation.name ++ ", " ++ target.render ++
      labelledList ", columns=" (renderAll columns) ++
      labelledList ", set=" (renderAll expressions) ++
      labelled ", where=" (renderOption condition) ++
      labelled ", " (renderOption source) ++ ")"
  | call op operands distinct _ =>
    op.name ++ "(" ++ distinctMark distinct ++ commas (renderAll operands) ++ ")"
  | identifier names _ => ".".intercalate names
  | literal value _ => value.render
  | parameter index _ => "?" ++ index.toNat.repr
  | list items _ => "(" ++ commas (renderAll items) ++ ")"

/-- Plans, each on one line. -/
def renderAll : List Plan → List String
  | [] => []
  | plan :: plans => plan.render :: renderAll plans

/-- Rows of plans, each in brackets. -/
def renderRows : List (List Plan) → List String
  | [] => []
  | row :: rows => bracketed (renderAll row) :: renderRows rows

/-- An optional plan on one line. -/
def renderOption : Option Plan → Option String
  | none => none
  | some plan => some plan.render

/-- What a join matches rows by, if anything. -/
def renderCondition : JoinCondition → Option String
  | .none => none
  | .condition plan => some ("ON " ++ plan.render)
  | .columns names => some ("USING " ++ bracketed names)

end

/-! ## One operator per line -/

/-- The line of a node in the indented form. A call over relations shows only its operator
and alias; the relations stand below it. -/
def label : Plan → String
  | scan table _ => "Scan: " ++ ".".intercalate table
  | project _ exprs distinct =>
    "Project:" ++ (if distinct then " distinct" else "") ++ " " ++ bracketed (renderAll exprs)
  | filter _ condition => "Filter: " ++ condition.render
  | join _ _ type natural condition =>
    "Join: " ++ type.label natural ++ labelled " " (renderCondition condition)
  | setOp operation all _ _ => "SetOp: " ++ operation.label all
  | aggregate _ groupBy => "Aggregate: group_by=" ++ bracketed (renderAll groupBy)
  | sort _ orderBy offset fetch =>
    "Sort: " ++ bracketed (renderAll orderBy) ++ labelled " offset=" (renderOption offset) ++
      labelled " fetch=" (renderOption fetch)
  | modify operation target columns _ expressions condition =>
    "TableModify: " ++ operation.name ++ " " ++ target.render ++
      labelledList " columns=" (renderAll columns) ++
      labelledList " set=" (renderAll expressions) ++
      labelled " where=" (renderOption condition)
  | call op operands distinct span =>
    if operands.any isRelational then
      op.name ++ ":" ++ labelled " " (call op operands distinct span).aliasName?
    else (call op operands distinct span).render
  | plan => plan.render

/-- A line at a depth. -/
def line (depth : Nat) (text : String) : String :=
  String.ofList (List.replicate (2 * depth) ' ') ++ text ++ "\n"

mutual

/-- The lines of a plan whose node stands at a depth. -/
def indentedAt (depth : Nat) (plan : Plan) : String :=
  line depth plan.label ++ match plan with
    | project input _ _ => input.indentedAt (depth + 1)
    | filter input _ => input.indentedAt (depth + 1)
    | join left right _ _ _ => left.indentedAt (depth + 1) ++ right.indentedAt (depth + 1)
    | setOp _ _ left right => left.indentedAt (depth + 1) ++ right.indentedAt (depth + 1)
    | aggregate input _ => input.indentedAt (depth + 1)
    | sort input _ _ _ => input.indentedAt (depth + 1)
    | modify _ _ _ source _ _ =>
      match source with
      | none => ""
      | some source => source.indentedAt (depth + 1)
    | call _ operands _ _ => relationsAt (depth + 1) operands
    | _ => ""

/-- The lines of the relations among some operands. -/
def relationsAt (depth : Nat) : List Plan → String
  | [] => ""
  | plan :: plans =>
    (if plan.isRelational then plan.indentedAt depth else "") ++ relationsAt depth plans

end

/-- A plan with one relational operator per line; every line ends in a line break. -/
def indented (plan : Plan) : String := plan.indentedAt 0

end Plan

end SqlAlgebra
