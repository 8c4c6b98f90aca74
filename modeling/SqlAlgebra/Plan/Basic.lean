import SqlAlgebra.Operator.Basic
import SqlAlgebra.Segment.Basic

/-!
# Relational plans

The result of a conversion: a tree of relational operators (`scan`, `project`, `filter`, …)
with scalar leaves and calls in it. Every node owns its children. `Plan.apply` builds a call
and refuses a wrong number of operands, so calls built through it satisfy their operator's
arity. `Plan.walk` lists the nodes of a plan in pre-order.
-/

namespace SqlAlgebra

/-- The set operations. -/
inductive SetOperation
  | union
  | intersect
  | except
deriving DecidableEq, Repr, Inhabited

namespace SetOperation

/-- The word for a set operation. -/
def name : SetOperation → String
  | union => "UNION"
  | intersect => "INTERSECT"
  | except => "EXCEPT"

/-- Every set operation, in declared order. -/
def all : List SetOperation := [union, intersect, except]

end SetOperation

/-- The set operation of a combination, and whether it keeps duplicates. -/
def CombineType.setOperation : CombineType → SetOperation × Bool
  | union => (.union, false)
  | unionAll => (.union, true)
  | intersect => (.intersect, false)
  | intersectAll => (.intersect, true)
  | except | minus => (.except, false)
  | exceptAll => (.except, true)

/-- What a statement does to its target table. -/
inductive Modification
  | insert
  | update
  | delete
deriving DecidableEq, Repr, Inhabited

namespace Modification

/-- The word for a modification. -/
def name : Modification → String
  | insert => "INSERT"
  | update => "UPDATE"
  | delete => "DELETE"

/-- Every modification, in declared order. -/
def all : List Modification := [insert, update, delete]

end Modification

mutual

/-- A node of a plan. -/
inductive Plan
  /-- A table by its qualified name. -/
  | scan (table : List String) (span : Span)
  | project (input : Plan) (exprs : List Plan) (distinct : Bool)
  | filter (input condition : Plan)
  | join (left right : Plan) (type : JoinType) (natural : Bool) (condition : JoinCondition)
  | setOp (operation : SetOperation) (all : Bool) (left right : Plan)
  | aggregate (input : Plan) (groupBy : List Plan)
  | sort (input : Plan) (orderBy : List Plan) (offset fetch : Option Plan)
  | values (rows : List (List Plan))
  | modify (operation : Modification) (target : Plan) (columns : List Plan)
      (source : Option Plan) (expressions : List Plan) (condition : Option Plan)
  | call (operator : Operator) (operands : List Plan) (distinct : Bool) (span : Span)
  /-- A name, possibly qualified; the star of `t.*` is the name `*`. -/
  | identifier (names : List String) (span : Span)
  | literal (value : Literal) (span : Span)
  | parameter (index : UInt64) (span : Span)
  | list (items : List Plan) (span : Span)

/-- What the rows of a join are matched by. -/
inductive JoinCondition
  | none
  | condition (condition : Plan)
  | columns (names : List String)

end

instance : Inhabited Plan := ⟨.values []⟩

/-- A call with a number of operands its operator does not accept. -/
structure ArityError where
  operator : Operator
  actual : Nat
deriving DecidableEq, Repr

/-- The wording of a wrong number of operands. -/
def ArityError.message (e : ArityError) : String :=
  "operator " ++ e.operator.name ++ " expects " ++ e.operator.arity.text ++
    " operand(s), got " ++ e.actual.repr

namespace Plan

/-! ## Building plans -/

/-- The call of an operator, if it accepts that many operands. -/
def apply (op : Operator) (operands : List Plan) (distinct : Bool) (span : Span) :
    Except ArityError Plan :=
  if op.arity.accepts operands.length then .ok (.call op operands distinct span)
  else .error ⟨op, operands.length⟩

/-- An unqualified name. -/
def named (name : String) : Plan := .identifier [name] .zero

/-- `*` or `owner.*`. -/
def star (owner : Option String) (span : Span) : Plan :=
  .identifier (owner.toList ++ ["*"]) span

/-- A node under an alias, or wrapped without one. -/
def aliased (target : Plan) (aliasName : Option String) (span : Span) : Plan :=
  .call (.core .asAlias) (target :: aliasName.toList.map named) false span

/-- A table taken as it is, without a select list. -/
def explicitTable (source : Plan) : Plan :=
  .call (.core .explicitTable) [source] false .zero

/-- The single empty row that a SELECT without FROM reads from. -/
def singleRow : Plan := .values [[]]

/-! ## Reading plans -/

/-- Whether a node produces rows, as opposed to a scalar. -/
def isRelational : Plan → Bool
  | call .. | identifier .. | literal .. | parameter .. | list .. => false
  | _ => true

/-- The word for a node's form. -/
def tag : Plan → String
  | scan .. => "Scan"
  | project .. => "Project"
  | filter .. => "Filter"
  | join .. => "Join"
  | setOp .. => "SetOp"
  | aggregate .. => "Aggregate"
  | sort .. => "Sort"
  | values .. => "Values"
  | modify .. => "TableModify"
  | call .. => "Call"
  | identifier .. => "Identifier"
  | literal .. => "Literal"
  | parameter .. => "DynamicParam"
  | list .. => "List"

/-- The alias a node carries: the last name of the second operand of an AS call. -/
def aliasName? : Plan → Option String
  | call (.core .asAlias) (_ :: .identifier names _ :: _) _ _ => names.getLast?
  | _ => none

mutual

/-- The nodes of a plan in pre-order. -/
def walk (plan : Plan) : List Plan :=
  plan :: match plan with
    | scan .. | identifier .. | literal .. | parameter .. => []
    | project input exprs _ => input.walk ++ walkAll exprs
    | filter input condition => input.walk ++ condition.walk
    | join left right _ _ condition => left.walk ++ right.walk ++ walkCondition condition
    | setOp _ _ left right => left.walk ++ right.walk
    | aggregate input groupBy => input.walk ++ walkAll groupBy
    | sort input orderBy offset fetch =>
      input.walk ++ walkAll orderBy ++ walkOption offset ++ walkOption fetch
    | values rows => walkRows rows
    | modify _ target columns source expressions condition =>
      target.walk ++ walkAll columns ++ walkOption source ++ walkAll expressions ++
        walkOption condition
    | call _ operands _ _ => walkAll operands
    | list items _ => walkAll items

/-- The nodes of some plans, one after the other. -/
def walkAll : List Plan → List Plan
  | [] => []
  | plan :: plans => plan.walk ++ walkAll plans

/-- The nodes of some rows of plans. -/
def walkRows : List (List Plan) → List Plan
  | [] => []
  | row :: rows => walkAll row ++ walkRows rows

/-- The nodes of an optional plan. -/
def walkOption : Option Plan → List Plan
  | none => []
  | some plan => plan.walk

/-- The nodes of a join condition. -/
def walkCondition : JoinCondition → List Plan
  | .none => []
  | .condition plan => plan.walk
  | .columns _ => []

end

/-- The dotted name of a scanned table. -/
def scannedTable? : Plan → Option String
  | scan table _ => some (".".intercalate table)
  | _ => none

/-- The dotted names of the tables a plan scans, in pre-order. -/
def scannedTables (plan : Plan) : List String :=
  plan.walk.filterMap scannedTable?

end Plan

end SqlAlgebra
