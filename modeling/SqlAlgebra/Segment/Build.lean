import SqlAlgebra.Segment.Tree

/-!
# Building segments

Constructors for the common cases. What is not said is absent, and nothing built here
stands in a source text: spans are zero unless they come from the parts.
-/

namespace SqlAlgebra

/-- The SELECT with no clause at all. -/
def Select.empty : Select where
  projections := none
  source := none
  condition := none
  groupBy := none
  having := none
  orderBy := none
  limit := none
  combine := none
  span := .zero

/-- A parenthesised SELECT, standing where the SELECT stands. -/
def Subquery.ofSelect (select : Select) : Subquery :=
  ⟨select, select.span⟩

namespace Expr

/-- An unqualified column. -/
def ofColumn (name : String) : Expr := .column { name }

/-- A qualified column. -/
def ofQualifiedColumn (owner name : String) : Expr := .column { owner := some owner, name }

/-- An integer literal. -/
def ofInteger (value : Int64) : Expr := .literal (.integer value) .zero

/-- A string literal. -/
def ofString (value : String) : Expr := .literal (.string value) .zero

/-- The literal `NULL`. -/
def null : Expr := .literal .null .zero

/-- `left operator right`. -/
def ofBinary (left : Expr) (operator : String) (right : Expr) : Expr :=
  .binary left operator right .zero

end Expr

namespace Table

/-- A join with the condition, shared columns and NATURAL flag given. -/
def ofJoin (left : Table) (type : JoinType) (right : Table) (condition : Option Expr)
    (sharedColumns : List Column) (natural : Bool) : Table :=
  .join left right type natural condition sharedColumns .zero

/-- A derived table, standing where its query stands. -/
def ofSubquery (query : Subquery) (aliasName : Option String) : Table :=
  .subquery query aliasName query.span

end Table

/-- A select list. -/
def SelectList.ofItems (items : List Projection) (distinct : Bool) : SelectList :=
  ⟨distinct, items, .zero⟩

namespace Projection

/-- An unaliased, unqualified column. -/
def ofColumn (name : String) : Projection := .column { name } none .zero

/-- The item `*`. -/
def star : Projection := .shorthand none .zero

end Projection

/-- A condition that stands nowhere. -/
def Condition.ofExpr (expr : Expr) : Condition := ⟨expr, .zero⟩

/-- A sort item on a column. -/
def OrderItem.ofColumn (column : Column) (direction : Direction) : OrderItem :=
  .column column direction none .zero

/-- A paging number. -/
def PageValue.ofNumber (value : UInt64) : PageValue := .number value .zero

/-- An assignment to one column. -/
def Assignment.ofColumn (column : Column) (value : Expr) : Assignment :=
  ⟨[column], value, .zero⟩

end SqlAlgebra
