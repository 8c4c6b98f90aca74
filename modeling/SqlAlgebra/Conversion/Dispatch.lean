import SqlAlgebra.Conversion.Modification

/-!
# Converting segments

A segment is converted by the handler that the registry has for its kind. Conversions nest;
`Compiler.convertWithin` takes the number of levels that are left and fails when there are
none, so a conversion ends whatever the registry says. Each level is one segment entered, so
`Compiler.convert` fails exactly where the depth has come up to the limit
(`Compiler.outcome_convert`).
-/

namespace SqlAlgebra

/-- Settings and a registry. -/
structure Compiler where
  settings : CompilerSettings := {}
  registry : Registry := .standard

namespace Conversion

/-- Refuses a segment that has no converter. -/
def refuse (s : Segment) : ConvertM (Option Plan) := do
  let path := (← ConvertM.context).path
  ConvertM.report (.converterMissing s.kind s.span path)
  throw (.unsupportedSegment s.kind s.span path)

/-- Converts a segment as a handler says. -/
def handled (handler : Handler ρ) (rule : ρ → ConvertM (Option Plan)) (go : Descent)
    (s : Segment) : ConvertM (Option Plan) :=
  match handler with
  | .rule r => rule r
  | .absent => return none
  | .redispatch => go s
  | .unsupported => refuse s

/-- The event of entering a segment; depth and path include it. -/
def entered (s : Segment) (depth : Nat) (path : List SegmentKind) : Event :=
  match s with
  | .select q => .selectEntered q depth path
  | s => .segmentEntered s depth path

end Conversion

namespace Compiler

open Conversion ConvertM

/-- Converts a segment that has been entered. -/
def convertEntered (c : Compiler) (go : Descent) (s : Segment) : ConvertM (Option Plan) :=
  match s with
  | .table t => handled (c.registry.tables.handler t.kind) (TableRule.apply go · t) go s
  | .projection p =>
    handled (c.registry.projections.handler p.kind)
      (ProjectionRule.apply c.settings go · p) go s
  | .expression e =>
    handled (c.registry.expressions.handler e.kind)
      (ExprRule.apply c.registry.operators go · e) go s
  | .statement st =>
    handled (c.registry.statements.handler st.kind) (StatementRule.apply go · st) go s
  | .select q =>
    match c.registry.select with
    | .standard => some <$> select go q
    | .absent => return none
    | .redispatch => go s

/-- Converts a segment, entering at most `levels` segments inside one another. -/
def convertWithin (c : Compiler) : Nat → Descent
  | 0, _ => throw (.maxRecursion c.settings.maxDepth)
  | levels + 1, s => do
    let inside := (← context).enter s.kind
    report (entered s inside.depth inside.path)
    entering s.kind (c.convertEntered (convertWithin c levels) s)

/-- How many more segments can be entered. -/
def levelsLeft (c : Compiler) (context : Context) : Nat :=
  c.settings.maxDepth.toNat - context.depth

/-- Converts a segment within the nesting limit. -/
def convert (c : Compiler) (s : Segment) : ConvertM (Option Plan) := do
  c.convertWithin (c.levelsLeft (← context)) s

end Compiler

end SqlAlgebra
