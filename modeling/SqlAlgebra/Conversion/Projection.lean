import SqlAlgebra.Conversion.Expression

/-!
# Converting select-list items

The conversion rules for the items of a select list. A column keeps its name unless it has an
alias. An expression, aggregation or scalar subquery without an alias is given one from its
position, if the settings say so.
-/

namespace SqlAlgebra

namespace Conversion

open ConvertM

/-- A node under the alias of its item, or under the derived one. -/
def named (settings : CompilerSettings) (kind : SegmentKind) (aliasName : Option String)
    (span : Span) (plan : Plan) : ConvertM Plan := do
  match aliasName with
  | some name => return .aliased plan (some name) span
  | none =>
    match (← context).derivedAlias? settings with
    | some name =>
      report (.aliasDerived kind name)
      return .aliased plan (some name) span
    | none => return plan

/-- A column of a select list; only an alias that was written wraps it. -/
def columnItem (c : Column) (aliasName : Option String) (span : Span) : ConvertM Plan := do
  let plan ← column c
  match aliasName with
  | some name => return .aliased plan (some name) span
  | none => return plan

/-- An expression of a select list. -/
def expressionItem (settings : CompilerSettings) (go : Descent) (e : Expr)
    (aliasName : Option String) (span : Span) : ConvertM (Option Plan) := do
  let some plan ← go (.expression e) | return none
  return some (← named settings .expressionProjection aliasName span plan)

/-- An aggregation of a select list. -/
def aggregationItem (settings : CompilerSettings) (go : Descent) (a : Aggregation)
    (aliasName : Option String) (span : Span) : ConvertM (Option Plan) := do
  let some plan ← aggregation go a | return none
  return some (← named settings .aggregationProjection aliasName span plan)

/-- A scalar subquery of a select list. -/
def subqueryItem (settings : CompilerSettings) (go : Descent) (query : Subquery)
    (aliasName : Option String) (span : Span) : ConvertM (Option Plan) := do
  let some plan ← scalarSubquery go query | return none
  return some (← named settings .subqueryProjection aliasName span plan)

/-- Converts the items of a select list from a position on, each at its own position, and
drops those that convert to nothing. -/
def selectItems (go : Descent) : Nat → List Projection → ConvertM (List Plan)
  | _, [] => return []
  | ordinal, p :: ps => do
    modifyContext (.setOrdinal ordinal)
    let plan ← go (.projection p)
    let plans ← selectItems go (ordinal + 1) ps
    return plan.toList ++ plans

end Conversion

open Conversion in
/-- Applies a rule to a select-list item, which must be of the rule's kind. -/
def ProjectionRule.apply (settings : CompilerSettings) (go : Descent) (rule : ProjectionRule)
    (p : Projection) : ConvertM (Option Plan) :=
  match rule, p with
  | .column, .column c aliasName span => some <$> columnItem c aliasName span
  | .expression, .expression e aliasName span => expressionItem settings go e aliasName span
  | .aggregation, .aggregation a aliasName span => aggregationItem settings go a aliasName span
  | .shorthand, .shorthand owner span => return some (.star owner span)
  | .subquery, .subquery query aliasName span => subqueryItem settings go query aliasName span
  | rule, p => throw (.converterMismatch rule.kind p.kind)

end SqlAlgebra
