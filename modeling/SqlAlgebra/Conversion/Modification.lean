import SqlAlgebra.Conversion.Select

/-!
# Converting statements

INSERT, UPDATE and DELETE become modifications of a target table. `INSERT … SET a = 1` is
converted like `INSERT … (a) VALUES (1)`. What can be refused by form alone is refused
before a scope is opened.
-/

namespace SqlAlgebra

/-- How many of VALUES, SET and SELECT an INSERT takes its rows from. -/
def Insert.sourceCount (s : Insert) : Nat :=
  (if s.rows.isEmpty then 0 else 1) + s.set.toList.length + s.query.toList.length

/-- The number of values each row of an INSERT must have: as many as there are columns, or as
the first row has if no columns are listed. -/
def Insert.width (s : Insert) : Nat :=
  match s.columns, s.rows with
  | [], row :: _ => row.values.length
  | columns, _ => columns.length

namespace Conversion

open ConvertM

/-- The names of columns. -/
def columns : List Column → ConvertM (List Plan)
  | [] => return []
  | c :: cs => do
    let plan ← column c
    let plans ← columns cs
    return plan :: plans

/-- The columns and the values of a SET list. -/
def assignments (go : Descent) : List Assignment → ConvertM (Option (List Plan × List Plan))
  | [] => return some ([], [])
  | a :: rest =>
    match a.columns with
    | [c] => do
      let name ← column c
      let some value ← go (.expression a.value) | return none
      let some (names, values) ← assignments go rest | return none
      return some (name :: names, value :: values)
    | columns => throw (.unsupportedFeature (.columnsAssigned columns.length) a.span)

/-- The rows of a VALUES list, each of the same width. -/
def valuesRows (go : Descent) (width : Nat) :
    List ValuesRow → ConvertM (Option (List (List Plan)))
  | [] => return some []
  | row :: rest =>
    if row.values.length = width then do
      let some values ← expressions go .insertStatement row.values | return none
      let some rows ← valuesRows go width rest | return none
      return some (values :: rows)
    else
      throw (.malformedSegment .insertStatement (.rowWidth row.values.length width) row.span)

/-- The columns an INSERT fills and the rows it takes, given its converted column list. -/
def insertSource (go : Descent) (s : Insert) (listed : List Plan) :
    ConvertM (Option (List Plan × Plan)) :=
  match s.set, s.query with
  | some set, _ =>
    if listed.isEmpty then do
      let some (names, values) ← assignments go set.assignments | return none
      return some (names, .values [values])
    else throw (.malformedSegment .insertStatement .columnsBeforeSet s.span)
  | none, some query => do
    let plan ← required .selectList query.span (go (.select query.select))
    return some (listed, plan)
  | none, none => do
    let some rows ← valuesRows go s.width s.rows | return none
    return some (listed, .values rows)

/-- An INSERT. -/
def insert (go : Descent) (s : Insert) : ConvertM (Option Plan) :=
  if s.sourceCount = 1 then
    inScope do
      modifyContext (.bindAlias s.table.bindingName)
      let listed ← columns s.columns
      let some (names, rows) ← insertSource go s listed | return none
      let target := Plan.scan s.table.qualifiedName s.table.span
      return some (.modify .insert target names (some rows) [] none)
  else throw (.malformedSegment .insertStatement .insertSources s.span)

/-- Refuses a modification in an order or up to a number of rows. -/
def unordered (modification : Modification) (orderBy : Option OrderClause)
    (limit : Option Limit) (span : Span) (body : ConvertM α) : ConvertM α :=
  if orderBy.isSome || limit.isSome then
    throw (.unsupportedFeature (.orderedModification modification) span)
  else body

/-- The target of an UPDATE or DELETE. -/
def target (go : Descent) (table : Table) : ConvertM Plan :=
  required .target table.span (go (.table table))

/-- The condition of an UPDATE or DELETE, if it has one. -/
def targetCondition (go : Descent) (c : Option SqlAlgebra.Condition) : ConvertM (Option Plan) :=
  whenPresent (fun c => required .condition c.span (condition go c)) c

/-- An UPDATE. -/
def update (go : Descent) (s : Update) : ConvertM (Option Plan) :=
  unordered .update s.orderBy s.limit s.span <| inScope do
    let relation ← target go s.table
    let some (names, values) ← assignments go s.set.assignments | return none
    if names.isEmpty then throw (.emptyClause .assignments s.set.span)
    let filter ← targetCondition go s.condition
    return some (.modify .update relation names none values filter)

/-- A DELETE. -/
def delete (go : Descent) (s : Delete) : ConvertM Plan :=
  unordered .delete s.orderBy s.limit s.span <| inScope do
    let relation ← target go s.table
    let filter ← targetCondition go s.condition
    return .modify .delete relation [] none [] filter

end Conversion

/-- Applies a rule to a statement, which must be of the rule's kind. -/
def StatementRule.apply (go : Descent) (rule : StatementRule) (s : Statement) :
    ConvertM (Option Plan) :=
  match rule, s with
  | .select, .select s => some <$> Conversion.select go s
  | .insert, .insert s => Conversion.insert go s
  | .update, .update s => Conversion.update go s
  | .delete, .delete s => some <$> Conversion.delete go s
  | rule, s => throw (.converterMismatch rule.kind s.kind)

end SqlAlgebra
