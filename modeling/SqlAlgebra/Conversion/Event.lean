import SqlAlgebra.Conversion.Error
import SqlAlgebra.Plan.Render
import SqlAlgebra.Segment.Tree

/-!
# Events of a conversion

What a conversion reports while it runs. An event is a cause with its data; `level`,
`source`, `message` and `fields` say how it appears in a log.
-/

namespace SqlAlgebra

/-- How severe an event is. -/
inductive Level
  | error
  | debug
  | trace
  /-- Kept in the log, but shown at no level. -/
  | hidden
deriving DecidableEq, Repr

namespace Level

/-- The word for a level. -/
def name : Level → String
  | error => "ERROR"
  | debug => "DEBUG"
  | trace => "TRACE"
  | hidden => "HIDDEN"

/-- The rank of a level; the most severe level has the least. -/
def rank : Level → Nat
  | error => 0
  | debug => 1
  | trace => 2
  | hidden => 3

end Level

/-- Something that happens in a conversion. -/
inductive Event
  /-- A segment is about to be converted, at a nesting depth that counts from one. The path
  leads from the root down to the segment. -/
  | segmentEntered (segment : Segment) (depth : Nat) (path : List SegmentKind)
  /-- A nested SELECT is about to be converted. -/
  | selectEntered (select : Select) (depth : Nat) (path : List SegmentKind)
  /-- A scope was opened; the count includes it. -/
  | scopePushed (height : Nat)
  /-- Scopes were closed. -/
  | scopesDropped (count : Nat)
  /-- No converter is registered for a segment. -/
  | converterMissing (kind : SegmentKind) (span : Span) (path : List SegmentKind)
  /-- An operand of a segment of kind `owner` converted to nothing. -/
  | operandAbsent (owner operand : SegmentKind)
  /-- The owner of a column was looked up: its table belongs to the SELECT that lies `depth`
  levels further out, or to none. -/
  | ownerLookedUp (owner column : String) (depth : Option Nat)
  /-- A column belongs to a table of a SELECT that lies `depth` levels further out. -/
  | columnCorrelated (owner column : String) (depth : Nat)
  /-- A function has no fixed meaning. -/
  | functionUnresolved (name : String)
  /-- An item of a select list was given an alias. -/
  | aliasDerived (kind : SegmentKind) (aliasName : String)
  /-- A derived table has neither a select list nor a source. -/
  | sourceMissing (span : Span)
  /-- A statement is about to be converted. -/
  | statementStarted (kind : SegmentKind) (span : Span)
  /-- A statement was converted. -/
  | statementConverted (kind : SegmentKind) (plan : Plan)
  /-- A statement was refused. -/
  | statementFailed (kind : SegmentKind) (error : ConvertError)

namespace Event

/-- The level of an event. A refused statement is an error if the converters are at fault. -/
def level : Event → Level
  | segmentEntered .. | selectEntered .. | scopePushed _ | scopesDropped _ => .trace
  | ownerLookedUp .. => .hidden
  | converterMissing .. => .error
  | statementFailed _ error => if error.isFatal then .error else .debug
  | _ => .debug

/-- The part of the compiler that reports an event. -/
def source : Event → String
  | converterMissing .. => "sqlfed::registry"
  | _ => "sqlfed::converter"

/-- The wording of an event. -/
def message : Event → String
  | segmentEntered .. => "Converting segment"
  | selectEntered .. => "Converting nested select"
  | scopePushed _ => "Pushed scope"
  | scopesDropped _ => "Rolling back scopes"
  | converterMissing .. => "No converter registered for segment kind"
  | operandAbsent .. => "Operand converted to nothing"
  | ownerLookedUp .. => "Looked up owner of column"
  | columnCorrelated .. => "Correlated column reference"
  | functionUnresolved _ => "Function left for the optimizer to resolve"
  | aliasDerived .. => "Derived anonymous projection alias"
  | sourceMissing _ => "Projection-less subquery has no table source"
  | statementStarted .. => "Converting statement"
  | statementConverted .. => "Converted statement"
  | statementFailed _ error =>
    if error.isFatal then "Converter set cannot handle statement"
    else "Statement conversion failed"

/-- The data of an event that a log shows, by name. Of a segment that is entered this is its
kind, without the path. -/
def fields : Event → List (String × Json)
  | segmentEntered segment depth _ =>
    [("kind", .string segment.kind.name), ("depth", .ofNat depth)]
  | selectEntered _ depth _ =>
    [("kind", .string SegmentKind.selectStatement.name), ("depth", .ofNat depth)]
  | scopePushed height => [("stack_len", .ofNat height)]
  | scopesDropped count => [("count", .ofNat count)]
  | converterMissing kind span path =>
    [("kind", .string kind.name), ("span", .string span.text),
      ("path", .string ("[" ++ ", ".intercalate (path.map SegmentKind.name) ++ "]"))]
  | operandAbsent owner operand =>
    [("owner", .string owner.name), ("operand", .string operand.name)]
  | ownerLookedUp owner column depth =>
    [("owner", .string owner), ("column", .string column),
      ("depth", depth.elim .null .ofNat)]
  | columnCorrelated owner column depth =>
    [("owner", .string owner), ("column", .string column), ("depth", .ofNat depth)]
  | functionUnresolved name => [("function", .string name)]
  | aliasDerived kind aliasName =>
    [("kind", .string kind.name), ("alias", .string aliasName)]
  | sourceMissing span => [("span", .string span.text)]
  | statementStarted kind span =>
    [("kind", .string kind.name), ("span", .string span.text)]
  | statementConverted kind plan =>
    [("kind", .string kind.name), ("plan", .string plan.render)]
  | statementFailed kind error =>
    [("kind", .string kind.name), ("error", .string error.message)]

end Event

/-- The events of a log that are at least as severe as a level. -/
def Level.select (level : Level) (events : List Event) : List Event :=
  events.filter fun event => event.level.rank ≤ level.rank

end SqlAlgebra
