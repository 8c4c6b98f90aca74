import SqlAlgebra.Kind
import SqlAlgebra.Span

/-!
# Segments of a parsed statement

A parsed SQL statement is a tree of segments. This module holds the pieces that nest in no
others: columns, literals, plain tables, paging values, and the words (join types,
directions, set operations) that clauses carry.
-/

namespace SqlAlgebra

/-- A column, possibly qualified: `[owner.]name`. -/
structure Column where
  owner : Option String := none
  name : String
  span : Span := {}
deriving DecidableEq, Repr, Inhabited

/-- The parts of a column's name, its owner first. -/
def Column.qualifiedName (c : Column) : List String :=
  match c.owner with
  | some owner => [owner, c.name]
  | none => [c.name]

/-- A literal value. Exact decimals keep their source text. -/
inductive Literal
  | null
  | boolean (value : Bool)
  | integer (value : Int64)
  | decimal (text : String)
  | string (value : String)
deriving DecidableEq, Repr, Inhabited

/-- A table by name: `[owner.]name [AS alias]`. -/
structure SimpleTable where
  owner : Option String := none
  name : String
  aliasName : Option String := none
  span : Span := {}
deriving DecidableEq, Repr, Inhabited

namespace SimpleTable

/-- The parts of a table's name, its owner first. -/
def qualifiedName (t : SimpleTable) : List String :=
  match t.owner with
  | some owner => [owner, t.name]
  | none => [t.name]

/-- The name under which columns of the table are qualified: its alias if it has one. -/
def bindingName (t : SimpleTable) : String :=
  t.aliasName.getD t.name

end SimpleTable

/-- How two tables are joined; `comma` is the join of `FROM a, b`. -/
inductive JoinType
  | inner
  | left
  | right
  | full
  | cross
  | comma
deriving DecidableEq, Repr, Inhabited

namespace JoinType

/-- The word for a join type. -/
def name : JoinType → String
  | inner => "INNER"
  | left => "LEFT"
  | right => "RIGHT"
  | full => "FULL"
  | cross => "CROSS"
  | comma => "COMMA"

/-- Every join type, in declared order. -/
def all : List JoinType := [inner, left, right, full, cross, comma]

/-- Whether a join of this type pairs every row with every row, and so takes no condition. -/
def isCross : JoinType → Bool
  | cross | comma => true
  | _ => false

end JoinType

/-- The aggregate functions of the language. -/
inductive AggregateFunction
  | count
  | sum
  | avg
  | min
  | max
deriving DecidableEq, Repr, Inhabited

namespace AggregateFunction

/-- The word for an aggregate function. -/
def name : AggregateFunction → String
  | count => "COUNT"
  | sum => "SUM"
  | avg => "AVG"
  | min => "MIN"
  | max => "MAX"

/-- Every aggregate function, in declared order. -/
def all : List AggregateFunction := [count, sum, avg, min, max]

end AggregateFunction

/-- The direction of a sort key. -/
inductive Direction
  | ascending
  | descending
deriving DecidableEq, Repr, Inhabited

namespace Direction

/-- The word for a direction. -/
def name : Direction → String
  | ascending => "ASC"
  | descending => "DESC"

/-- Both directions, in declared order. -/
def all : List Direction := [ascending, descending]

end Direction

/-- Where a sort key puts nulls. -/
inductive NullsOrder
  | first
  | last
deriving DecidableEq, Repr, Inhabited

namespace NullsOrder

/-- The word for a placement of nulls. -/
def name : NullsOrder → String
  | first => "FIRST"
  | last => "LAST"

/-- Both placements, in declared order. -/
def all : List NullsOrder := [first, last]

end NullsOrder

/-- A value of LIMIT or OFFSET: a number or a positional marker. -/
inductive PageValue
  | number (value : UInt64) (span : Span)
  | parameter (index : UInt64) (span : Span)
deriving DecidableEq, Repr, Inhabited

/-- Where a paging value stands. -/
def PageValue.span : PageValue → Span
  | number _ span => span
  | parameter _ span => span

/-- `LIMIT row_count OFFSET offset`. -/
structure Limit where
  offset : Option PageValue := none
  rowCount : Option PageValue := none
  span : Span := {}
deriving DecidableEq, Repr, Inhabited

/-- How one SELECT is combined with another; `minus` is another word for `except`. -/
inductive CombineType
  | union
  | unionAll
  | intersect
  | intersectAll
  | except
  | exceptAll
  | minus
deriving DecidableEq, Repr, Inhabited

namespace CombineType

/-- The word for a combination. -/
def name : CombineType → String
  | union => "UNION"
  | unionAll => "UNION_ALL"
  | intersect => "INTERSECT"
  | intersectAll => "INTERSECT_ALL"
  | except => "EXCEPT"
  | exceptAll => "EXCEPT_ALL"
  | minus => "MINUS"

/-- Every combination, in declared order. -/
def all : List CombineType :=
  [union, unionAll, intersect, intersectAll, except, exceptAll, minus]

end CombineType

end SqlAlgebra
