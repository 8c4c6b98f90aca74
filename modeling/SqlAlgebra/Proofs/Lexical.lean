import SqlAlgebra.Proofs.Form

/-!
# Lexical scoping

Whose table the owner of a column names is a matter of the text: it is a table of the nearest
SELECT or modification around the column that exposes the name. This module says so without
running anything. `Table.exposes` lists the names a table makes known, `Surroundings` what is
exposed around a place, level by level, and `Surroundings.Resolves` which answer to the search
for a name is right there.

`Statement.occurrences` lists the columns with an owner, each with its surroundings. The text
around a column counts in full, with two provisos. A condition of a join knows the tables to
its left and those of the join, not the ones that follow; and inside a derived table, or on
the right of a set operation, nothing is said about the levels further out than it.
-/

namespace SqlAlgebra

/-! ## Surroundings -/

/-- Whether a name is among others, up to the case of ASCII letters. -/
def Exposed (names : List String) (owner : String) : Prop :=
  ∃ name ∈ names, Text.sameName name owner

/-- What is known about the SELECTs and modifications around a place. -/
structure Surroundings where
  /-- The names that each of the nearest ones exposes, the innermost first. -/
  levels : List (List String)
  /-- Whether there are none further out. -/
  closed : Bool
deriving DecidableEq, Repr

namespace Surroundings

/-- Outside of everything. -/
def outermost : Surroundings := ⟨[], true⟩

/-- Anywhere. -/
def anywhere : Surroundings := ⟨[], false⟩

/-- Inside a further SELECT or modification, which exposes nothing yet. -/
def opened (around : Surroundings) : Surroundings :=
  { around with levels := [] :: around.levels }

/-- Where the innermost SELECT or modification exposes further names. -/
def exposing (around : Surroundings) (names : List String) : Surroundings :=
  { around with levels := match around.levels with
      | [] => []
      | level :: outer => (level ++ names) :: outer }

theorem exposing_nil (around : Surroundings) : around.exposing [] = around := by
  obtain ⟨_ | ⟨level, outer⟩, closed⟩ := around <;> simp [exposing]

/-- Names that are exposed later come after those that are exposed already. -/
theorem exposing_exposing (around : Surroundings) (names names' : List String) :
    (around.exposing names).exposing names' = around.exposing (names ++ names') := by
  obtain ⟨_ | ⟨level, outer⟩, closed⟩ := around <;> simp [exposing]

/-- The nearest level that exposes a name lies `depth` levels out. -/
def IsNearest (around : Surroundings) (owner : String) (depth : Nat) : Prop :=
  (∃ names, around.levels[depth]? = some names ∧ Exposed names owner) ∧
    ∀ i < depth, ∀ names, around.levels[i]? = some names → ¬ Exposed names owner

/-- The right answer to how far out a name is exposed. Where further levels are not known, it
is settled only for those that are. -/
structure Resolves (around : Surroundings) (owner : String) (depth : Option Nat) : Prop where
  nearest : ∀ d, around.closed ∨ d < around.levels.length →
    (depth = some d ↔ around.IsNearest owner d)
  missing : around.closed → (depth = none ↔ ∀ names ∈ around.levels, ¬ Exposed names owner)

end Surroundings

/-! ## Exposed names -/

mutual

/-- The names that a table exposes to the SELECT around it. -/
def Table.exposes : Table → List String
  | .simple t => [t.bindingName]
  | .join left right _ _ _ _ _ => left.exposes ++ right.exposes
  | .subquery query aliasName _ => query.exposes ++ aliasName.toList
  | .deleteMulti .. => []

/-- The names in a derived table that are exposed outside of it: none if it has a select list,
and else those of its source. -/
def Subquery.exposes : Subquery → List String
  | ⟨⟨some _, _, _, _, _, _, _, _, _⟩, _⟩ => []
  | ⟨⟨none, source, _, _, _, _, _, _, _⟩, _⟩ => sourceExposes source

/-- The names that a FROM clause exposes. -/
def sourceExposes : Option Table → List String
  | none => []
  | some table => table.exposes

end

/-! ## Columns and their surroundings -/

/-- A column with an owner, and what is around it. -/
structure Occurrence where
  owner : String
  column : String
  around : Surroundings
deriving DecidableEq, Repr

/-- A column counts if it has an owner. -/
def Column.occurrences (around : Surroundings) (c : Column) : List Occurrence :=
  c.owner.toList.map fun owner => ⟨owner, c.name, around⟩

mutual

/-- The columns of an expression. -/
def Expr.occurrences (around : Surroundings) : Expr → List Occurrence
  | .column c => c.occurrences around
  | .literal .. | .parameter .. | .common .. => []
  | .binary left _ right _ => left.occurrences around ++ right.occurrences around
  | .negation operand _ => operand.occurrences around
  | .membership left right _ _ => left.occurrences around ++ right.occurrences around
  | .between operand low high _ _ =>
    operand.occurrences around ++ low.occurrences around ++ high.occurrences around
  | .list items _ => (eachOccurrences around items).flatten
  | .function _ arguments _ => (eachOccurrences around arguments).flatten
  | .aggregation call => call.occurrences around
  | .subquery query => query.occurrences around
  | .existence query _ _ => query.occurrences around
  | .caseWhen operand whens thens otherwise _ =>
    branchOccurrences around operand ++
      inTurns (eachOccurrences around whens) (eachOccurrences around thens) ++
      branchOccurrences around otherwise

/-- The columns of each of some expressions. -/
def eachOccurrences (around : Surroundings) : List Expr → List (List Occurrence)
  | [] => []
  | x :: xs => x.occurrences around :: eachOccurrences around xs

/-- The columns of an optional expression. -/
def branchOccurrences (around : Surroundings) : Option Expr → List Occurrence
  | none => []
  | some x => x.occurrences around

/-- The columns of an aggregate call. -/
def Aggregation.occurrences (around : Surroundings) : Aggregation → List Occurrence
  | ⟨_, _, arguments, _⟩ => (eachOccurrences around arguments).flatten

/-- The columns of a subquery. -/
def Subquery.occurrences (around : Surroundings) : Subquery → List Occurrence
  | ⟨select, _⟩ => select.occurrences around

/-- The columns of a SELECT. What its source exposes is known in every other clause. -/
def Select.occurrences (around : Surroundings) : Select → List Occurrence
  | ⟨projections, source, condition, groupBy, having, orderBy, _, combine, _⟩ =>
    let inside := around.opened.exposing (sourceExposes source)
    sourceOccurrences around.opened source ++ conditionOccurrences inside condition ++
      orderOccurrences inside groupBy ++ conditionOccurrences inside having ++
      listOccurrences inside projections ++ orderOccurrences inside orderBy ++
      combineOccurrences combine

/-- The columns of a FROM clause. -/
def sourceOccurrences (around : Surroundings) : Option Table → List Occurrence
  | none => []
  | some table => table.occurrences around

/-- The columns of a table; `around` has the names of the tables to its left. -/
def Table.occurrences (around : Surroundings) : Table → List Occurrence
  | .simple _ | .deleteMulti .. => []
  | .join left right _ _ condition _ _ =>
    left.occurrences around ++ right.occurrences (around.exposing left.exposes) ++
      branchOccurrences ((around.exposing left.exposes).exposing right.exposes) condition
  | .subquery query _ _ =>
    if query.select.projections.isSome then query.occurrences .anywhere
    else query.sourceOccurrences around

/-- The columns in the source of a subquery. -/
def Subquery.sourceOccurrences (around : Surroundings) : Subquery → List Occurrence
  | ⟨⟨_, source, _, _, _, _, _, _, _⟩, _⟩ => SqlAlgebra.sourceOccurrences around source

/-- The columns of a WHERE or HAVING clause. -/
def conditionOccurrences (around : Surroundings) :
    Option SqlAlgebra.Condition → List Occurrence
  | none => []
  | some ⟨x, _⟩ => x.occurrences around

/-- The columns of an ORDER BY or GROUP BY clause. -/
def orderOccurrences (around : Surroundings) : Option OrderClause → List Occurrence
  | none => []
  | some ⟨items, _⟩ => keyOccurrences around items

/-- The columns of sort or grouping items. -/
def keyOccurrences (around : Surroundings) : List OrderItem → List Occurrence
  | [] => []
  | item :: items => item.occurrences around ++ keyOccurrences around items

/-- The columns of a sort or grouping item. -/
def OrderItem.occurrences (around : Surroundings) : OrderItem → List Occurrence
  | .column c _ _ _ => c.occurrences around
  | .expression x _ _ _ => x.occurrences around
  | .ordinal .. => []

/-- The columns of a select list. -/
def listOccurrences (around : Surroundings) : Option SelectList → List Occurrence
  | none => []
  | some ⟨_, items, _⟩ => itemOccurrences around items

/-- The columns of the items of a select list. -/
def itemOccurrences (around : Surroundings) : List Projection → List Occurrence
  | [] => []
  | item :: items => item.occurrences around ++ itemOccurrences around items

/-- The columns of an item of a select list. -/
def Projection.occurrences (around : Surroundings) : Projection → List Occurrence
  | .column c _ _ => c.occurrences around
  | .expression x _ _ => x.occurrences around
  | .aggregation call _ _ => call.occurrences around
  | .shorthand .. => []
  | .subquery query _ _ => query.occurrences around

/-- The columns on the right of a set operation. -/
def combineOccurrences : Option Combine → List Occurrence
  | none => []
  | some ⟨_, query, _⟩ => query.occurrences .anywhere

end

/-- The columns of a SET list. -/
def assignmentOccurrences (around : Surroundings) (assignments : List Assignment) :
    List Occurrence :=
  assignments.flatMap fun a =>
    a.columns.flatMap (Column.occurrences around) ++ a.value.occurrences around

/-- The columns of a statement. A modification exposes the names of its target. -/
def Statement.occurrences : Statement → List Occurrence
  | .select s => s.occurrences .outermost
  | .insert s =>
    let inside := Surroundings.outermost.opened.exposing [s.table.bindingName]
    s.columns.flatMap (Column.occurrences inside) ++
      (s.set.toList.flatMap fun set => assignmentOccurrences inside set.assignments) ++
      s.query.toList.flatMap (Subquery.occurrences inside) ++
      s.rows.flatMap fun row => row.values.flatMap (Expr.occurrences inside)
  | .update s =>
    let inside := Surroundings.outermost.opened.exposing s.table.exposes
    s.table.occurrences Surroundings.outermost.opened ++
      assignmentOccurrences inside s.set.assignments ++ conditionOccurrences inside s.condition
  | .delete s =>
    let inside := Surroundings.outermost.opened.exposing s.table.exposes
    s.table.occurrences Surroundings.outermost.opened ++ conditionOccurrences inside s.condition

/-! ## Collecting columns clause by clause -/

section Collecting

variable (around : Surroundings)

theorem eachOccurrences_eq : ∀ xs : List Expr,
    eachOccurrences around xs = xs.map (Expr.occurrences around)
  | [] => rfl
  | x :: xs => by rw [eachOccurrences, eachOccurrences_eq xs, List.map_cons]

theorem flatten_eachOccurrences (xs : List Expr) :
    (eachOccurrences around xs).flatten = xs.flatMap (Expr.occurrences around) := by
  rw [eachOccurrences_eq, List.flatMap_def]

theorem Expr.occurrences_list (items : List Expr) (span : Span) :
    (list items span).occurrences around = items.flatMap (Expr.occurrences around) := by
  rw [occurrences, flatten_eachOccurrences]

theorem Expr.occurrences_function (name : String) (arguments : List Expr) (span : Span) :
    (function name arguments span).occurrences around =
      arguments.flatMap (Expr.occurrences around) := by
  rw [occurrences, flatten_eachOccurrences]

theorem keyOccurrences_eq : ∀ items : List OrderItem,
    keyOccurrences around items = items.flatMap (OrderItem.occurrences around)
  | [] => rfl
  | item :: items => by rw [keyOccurrences, keyOccurrences_eq items, List.flatMap_cons]

/-- The columns in a WHERE or HAVING clause are those in its condition. -/
theorem conditionOccurrences_eq (o : Option SqlAlgebra.Condition) :
    conditionOccurrences around o = o.toList.flatMap fun c => c.expr.occurrences around := by
  rcases o with _ | ⟨x, span⟩ <;> simp [conditionOccurrences]

/-- The columns in a clause of keys are those in its keys. -/
theorem orderOccurrences_eq (o : Option OrderClause) :
    orderOccurrences around o =
      o.toList.flatMap fun c => c.items.flatMap (OrderItem.occurrences around) := by
  rcases o with _ | ⟨items, span⟩ <;> simp [orderOccurrences, keyOccurrences_eq]

theorem listOccurrences_eq (o : Option SelectList) :
    listOccurrences around o = o.toList.flatMap fun l => itemOccurrences around l.items := by
  rcases o with _ | ⟨distinct, items, span⟩ <;> simp [listOccurrences]

theorem Subquery.occurrences_eq (query : Subquery) :
    query.occurrences around = query.select.occurrences around := by
  obtain ⟨select, span⟩ := query
  rw [occurrences]

/-- The columns on the right of a set operation may stand anywhere. -/
theorem combineOccurrences_eq (o : Option Combine) :
    combineOccurrences o = o.toList.flatMap fun c => c.query.select.occurrences .anywhere := by
  rcases o with _ | ⟨type, query, span⟩ <;> simp [combineOccurrences, Subquery.occurrences_eq]

theorem Aggregation.occurrences_eq (a : Aggregation) :
    a.occurrences around = a.arguments.flatMap (Expr.occurrences around) := by
  obtain ⟨function, distinct, arguments, span⟩ := a
  rw [occurrences, flatten_eachOccurrences]

/-- The columns in the clauses of a SELECT stand where the names of its source are exposed. -/
theorem Select.occurrences_eq (s : Select) :
    s.occurrences around =
      let inside := around.opened.exposing (sourceExposes s.source)
      sourceOccurrences around.opened s.source ++ conditionOccurrences inside s.condition ++
        orderOccurrences inside s.groupBy ++ conditionOccurrences inside s.having ++
        listOccurrences inside s.projections ++ orderOccurrences inside s.orderBy ++
        combineOccurrences s.combine := by
  obtain ⟨projections, source, condition, groupBy, having, orderBy, limit, combine, span⟩ := s
  rw [occurrences]

end Collecting

/-! ### Derived tables -/

namespace Subquery

variable {query : Subquery}

/-- A derived table with a select list exposes none of the names in it. -/
theorem exposes_derived (h : query.select.projections.isSome) : query.exposes = [] := by
  obtain ⟨⟨projections, source, condition, groupBy, having, orderBy, limit, combine, s⟩, t⟩ :=
    query
  obtain ⟨l, rfl⟩ := Option.isSome_iff_exists.1 h
  rw [exposes]

/-- A derived table without a select list exposes the names of its source. -/
theorem exposes_explicit (h : query.select.projections = none) :
    query.exposes = sourceExposes query.select.source := by
  obtain ⟨⟨projections, source, condition, groupBy, having, orderBy, limit, combine, s⟩, t⟩ :=
    query
  obtain rfl : projections = none := h
  rw [exposes]

end Subquery

namespace Table

variable {query : Subquery} (aliasName : Option String) (span : Span)

/-- In a derived table with a select list, nothing is said about the levels around it. -/
theorem occurrences_derived (around : Surroundings) (h : query.select.projections.isSome) :
    (subquery query aliasName span).occurrences around =
      query.select.occurrences .anywhere := by
  rw [occurrences, if_pos h, Subquery.occurrences_eq]

/-- In a derived table without a select list, only the columns of its source are looked up. -/
theorem occurrences_explicit (around : Surroundings) (h : query.select.projections = none) :
    (subquery query aliasName span).occurrences around =
      sourceOccurrences around query.select.source := by
  rw [occurrences, if_neg (by simp [h])]
  obtain ⟨⟨projections, source, condition, groupBy, having, orderBy, limit, combine, s⟩, t⟩ :=
    query
  rw [Subquery.sourceOccurrences]

end Table

end SqlAlgebra
