import SqlAlgebra.Conversion.Engine
import SqlAlgebra.Wire.Fault

/-!
# Scripts of conversion steps

A script works on one conversion state step by step: it opens and closes scopes, binds
names, and converts parts of statements on their own. Checkpoints remember how many scopes
were open; they are numbered as they are taken, over the whole script, and each can be
rolled back to once. The steps of a block run in a scope of their own.
-/

namespace SqlAlgebra

/-- A part of a statement that can be converted on its own. -/
inductive Task
  /-- There is nothing to convert. -/
  | nothing
  /-- A segment, through its dispatch table. -/
  | segment (segment : Segment)
  /-- A rule applied to a segment directly. -/
  | tableRule (rule : TableRule) (table : Table)
  | projectionRule (rule : ProjectionRule) (projection : Projection)
  | exprRule (rule : ExprRule) (expr : Expr)
  | statementRule (rule : StatementRule) (statement : Statement)
  | condition (clause : Condition)
  | selectList (list : SelectList)
  | groupBy (clause : OrderClause)
  | orderBy (clause : OrderClause)
  | orderItem (item : OrderItem)
  | pageValue (value : PageValue)
  | offset (limit : Limit)
  | rowCount (limit : Limit)
  | combine (clause : Combine)

namespace Task

/-- Converted items as one list. -/
def listed (span : Span) (body : ConvertM (Option (List Plan))) : ConvertM (Option Plan) := do
  let some plans ← body | return none
  return some (.list plans span)

/-- Converts a part of a statement. -/
def run (c : Compiler) : Task → ConvertM (Option Plan)
  | nothing => return none
  | segment s => c.convert s
  | tableRule rule t => rule.apply c.convert t
  | projectionRule rule p => rule.apply c.settings c.convert p
  | exprRule rule e => rule.apply c.registry.operators c.convert e
  | statementRule rule s => rule.apply c.convert s
  | condition clause => Conversion.condition c.convert clause
  | selectList l => listed l.span (Conversion.selectList c.convert l)
  | groupBy clause => listed clause.span (Conversion.groupKeys c.convert clause)
  | orderBy clause => listed clause.span (Conversion.orderKeys c.convert clause)
  | orderItem item => Conversion.orderItem c.convert item
  | pageValue value => some <$> Conversion.pageValue value
  | offset limit => Conversion.offset (some limit)
  | rowCount limit => Conversion.rowCount (some limit)
  | combine clause => Conversion.combine c.convert clause

end Task

/-- A step of a script. -/
inductive Step
  | pushScope
  | bindAlias (name : String)
  | setOrdinal (ordinal : Nat)
  | checkpoint
  | rollback (number : Nat)
  | qualifierDepth (owner : String)
  | derivedAlias
  | convert (task : Task)
  | expressions (owner : SegmentKind) (exprs : List Expr)
  /-- Steps in a scope of their own; a failing block ends in an error. -/
  | block (steps : List Step) (fails : Bool)
  /-- A step that could not be read; it does nothing. -/
  | unreadable (fault : Wire.Fault)

instance : Inhabited Step := ⟨.pushScope⟩

/-- What a step answers, with the contexts after the steps of a block. -/
inductive StepResult
  | done
  | number (value : Option Nat)
  | text (value : Option String)
  | plan (outcome : Except ConvertError (Option Plan))
  | plans (outcome : Except ConvertError (Option (List Plan)))
  | noCheckpoint (number : Nat)
  | entries (entries : List (StepResult × Context))
  | failed (error : ConvertError)
  | unreadable (fault : Wire.Fault)

/-- The checkpoints taken so far, by number; one that was rolled back to is used up. -/
abbrev Checkpoints := List (Option Nat)

/-- The outcome of a conversion as a value; the state after it is kept either way. -/
def ConvertM.attempt (body : ConvertM α) : ConvertM (Except ConvertError α) := fun s =>
  let (result, s) := body.outcome s
  .ok result s

namespace Step

open ConvertM

mutual

/-- Runs a step. -/
def run (c : Compiler) (marks : Checkpoints) : Step → ConvertM (StepResult × Checkpoints)
  | pushScope => do
    modify Session.pushScope
    return (.done, marks)
  | bindAlias name => do
    modifyContext (.bindAlias name)
    return (.done, marks)
  | setOrdinal ordinal => do
    modifyContext (.setOrdinal ordinal)
    return (.done, marks)
  | checkpoint => do
    return (.number (some marks.length), marks ++ [some (← context).height])
  | rollback number =>
    match marks[number]? with
    | some (some mark) => do
      modify (Session.rollback mark)
      return (.done, marks.set number none)
    | _ => return (.noCheckpoint number, marks)
  | qualifierDepth owner => do
    return (.number ((← context).qualifierDepth? owner), marks)
  | derivedAlias => do
    return (.text ((← context).derivedAlias? c.settings), marks)
  | convert task => do
    return (.plan (← attempt (task.run c)), marks)
  | expressions owner exprs => do
    return (.plans (← attempt (Conversion.expressions c.convert owner exprs)), marks)
  | block steps fails => do
    let (entries, marks) ← inScope (runAll c marks steps)
    let result := if fails then .failed (.maxRecursion (.ofNat steps.length))
      else .entries entries
    return (result, marks)
  | unreadable fault => return (.unreadable fault, marks)

/-- Runs steps in order, noting the context after each. -/
def runAll (c : Compiler) (marks : Checkpoints) :
    List Step → ConvertM (List (StepResult × Context) × Checkpoints)
  | [] => return ([], marks)
  | step :: steps => do
    let (result, marks) ← step.run c marks
    let here ← context
    let (entries, marks) ← runAll c marks steps
    return ((result, here) :: entries, marks)

end

end Step

/-- Runs a script from a fresh state. -/
def Compiler.script (c : Compiler) (steps : List Step) : List (StepResult × Context) :=
  match Step.runAll c [] steps {} with
  | .ok (entries, _) _ => entries
  | .error _ _ => []

end SqlAlgebra
