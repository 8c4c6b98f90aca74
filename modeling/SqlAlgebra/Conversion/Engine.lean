import SqlAlgebra.Conversion.Dispatch

/-!
# Converting whole statements

A statement is converted from a fresh state. `Compiler.tryConvert` gives the outcome as it
is; `Compiler.traced` requires a plan and comes with the events of the run; and
`Compiler.compile` turns a failure into a report.
-/

namespace SqlAlgebra

namespace ConvertM

/-- Runs a conversion from a state. -/
def outcome (body : ConvertM α) (s : Session) : Except ConvertError α × Session :=
  match body s with
  | .ok a s => (.ok a, s)
  | .error e s => (.error e, s)

end ConvertM

namespace Compiler

open ConvertM

/-- The outcome of converting a statement, and the state after it. -/
def run (c : Compiler) (statement : Statement) (s : Session) :
    Except ConvertError (Option Plan) × Session :=
  (c.convert (.statement statement)).outcome s

/-- The outcome of converting a statement from a fresh state; a statement may convert to
nothing. -/
def tryConvert (c : Compiler) (statement : Statement) : Except ConvertError (Option Plan) :=
  (c.run statement {}).1

/-- An outcome in which nothing counts as a failure. -/
def present (statement : Statement) :
    Except ConvertError (Option Plan) → Except ConvertError Plan
  | .ok (some plan) => .ok plan
  | .ok none => .error (.emptyClause .statement statement.span)
  | .error e => .error e

/-- The event that closes the conversion of a statement. -/
def closing (statement : Statement) : Except ConvertError Plan → Event
  | .ok plan => .statementConverted statement.kind plan
  | .error e => .statementFailed statement.kind e

/-- The plan of a statement or the cause of the failure, with the events of the run. -/
def traced (c : Compiler) (statement : Statement) : Except ConvertError Plan × List Event :=
  let opened := Session.record (.statementStarted statement.kind statement.span) {}
  let (result, s) := c.run statement opened
  let result := present statement result
  (result, (s.record (closing statement result)).events)

/-- The plan of a statement, or a report of why there is none. -/
def compile (c : Compiler) (statement : Statement) : Except Report Plan :=
  (c.traced statement).1.mapError ConvertError.toReport

end Compiler

end SqlAlgebra
