import SqlAlgebra.Conversion.Event
import SqlAlgebra.Settings
import SqlAlgebra.Text.Words

/-!
# The state of a conversion

A conversion descends from a statement into its parts. On the way it keeps how deep it is,
the kinds of the segments it is inside of, and a stack of scopes, one for each enclosing
SELECT or modification, with the table names bound there. Beside this `Context` runs a log
of events, which nothing in a conversion reads.

`ConvertM` is the monad of conversions: a failure keeps the state in which it arose, so
what a conversion restores it has to restore on failure too. `inScope` and `entering` are the
two brackets that do this.
-/

namespace SqlAlgebra

/-- What is bound inside one SELECT or modification. -/
structure Scope where
  /-- The names under which tables are known, in the order they were bound. -/
  aliases : List String := []
  /-- The position of the select-list item being converted, counting from zero. -/
  ordinal : Nat := 0
deriving DecidableEq, Repr, Inhabited

/-- Whether a scope binds a name, up to the case of ASCII letters. -/
def Scope.binds (scope : Scope) (name : String) : Bool :=
  scope.aliases.any fun bound => Text.sameName bound name

/-- Where a conversion stands. -/
structure Context where
  /-- How many conversions are under way, each inside the one before. -/
  depth : Nat := 0
  /-- The kinds of the segments being converted, the innermost first. -/
  trail : List SegmentKind := []
  /-- The open scopes, the innermost first. -/
  scopes : List Scope := []
deriving DecidableEq, Repr, Inhabited

namespace Context

/-- The kinds from the root down to the segment being converted. -/
def path (c : Context) : List SegmentKind := c.trail.reverse

/-- The state inside a segment of a kind. -/
def enter (kind : SegmentKind) (c : Context) : Context :=
  { c with depth := c.depth + 1, trail := kind :: c.trail }

/-- The state after the segment entered last. -/
def leave (c : Context) : Context :=
  { c with depth := c.depth - 1, trail := c.trail.tail }

/-- Opens a scope. -/
def pushScope (c : Context) : Context :=
  { c with scopes := {} :: c.scopes }

/-- How many scopes are open. -/
def height (c : Context) : Nat := c.scopes.length

/-- Closes the innermost scopes until at most `height` are left. -/
def dropScopes (height : Nat) (c : Context) : Context :=
  { c with scopes := c.scopes.drop (c.scopes.length - height) }

/-- Changes the innermost scope, if there is one. -/
def modifyScope (f : Scope → Scope) (c : Context) : Context :=
  { c with scopes := match c.scopes with
      | [] => []
      | scope :: outer => f scope :: outer }

/-- Binds a table name in the innermost scope. -/
def bindAlias (name : String) : Context → Context :=
  modifyScope fun scope => { scope with aliases := scope.aliases ++ [name] }

/-- Sets the position of the select-list item being converted. -/
def setOrdinal (ordinal : Nat) : Context → Context :=
  modifyScope fun scope => { scope with ordinal := ordinal }

/-- The position of the select-list item being converted. -/
def ordinal (c : Context) : Nat :=
  match c.scopes with
  | [] => 0
  | scope :: _ => scope.ordinal

/-- How many scopes further out a name is bound: zero for the innermost scope. -/
def qualifierDepth? (owner : String) (c : Context) : Option Nat :=
  c.scopes.findIdx? fun scope => scope.binds owner

/-- The alias derived for the select-list item being converted. -/
def derivedAlias? (settings : CompilerSettings) (c : Context) : Option String :=
  if settings.deriveAliases then some (settings.aliasStem ++ c.ordinal.repr) else none

end Context

/-- A context with the log of what has happened. -/
structure Session where
  context : Context := {}
  /-- The events so far, the latest first. -/
  log : List Event := []

instance : Inhabited Session := ⟨{}⟩

namespace Session

/-- The events so far, in the order they happened. -/
def events (s : Session) : List Event := s.log.reverse

/-- Changes the context. -/
def modifyContext (f : Context → Context) (s : Session) : Session :=
  { s with context := f s.context }

/-- Adds an event to the log. -/
def record (event : Event) (s : Session) : Session :=
  { s with log := event :: s.log }

/-- Opens a scope. -/
def pushScope (s : Session) : Session :=
  let s := s.modifyContext .pushScope
  s.record (.scopePushed s.context.height)

/-- Closes the scopes opened since there were `mark` of them. -/
def rollback (mark : Nat) (s : Session) : Session :=
  if mark < s.context.height then
    (s.record (.scopesDropped (s.context.height - mark))).modifyContext (.dropScopes mark)
  else s

end Session

/-- A step of a conversion. -/
abbrev ConvertM := EStateM ConvertError Session

namespace ConvertM

/-- Adds an event to the log. -/
def report (event : Event) : ConvertM Unit :=
  modify (Session.record event)

/-- The current context. -/
def context : ConvertM Context :=
  return (← get).context

/-- Changes the context. -/
def modifyContext (f : Context → Context) : ConvertM Unit :=
  modify (Session.modifyContext f)

/-- Runs a conversion and then changes the state, whether the conversion failed or not. -/
def finishing (body : ConvertM α) (after : Session → Session) : ConvertM α := fun s =>
  match body s with
  | .ok a s => .ok a (after s)
  | .error e s => .error e (after s)

/-- Runs a conversion in a scope of its own, closing whatever scopes it leaves open. -/
def inScope (body : ConvertM α) : ConvertM α := fun s =>
  finishing body (Session.rollback s.context.height) s.pushScope

/-- Runs a conversion inside a segment of a kind. -/
def entering (kind : SegmentKind) (body : ConvertM α) : ConvertM α := fun s =>
  finishing body (Session.modifyContext .leave) (s.modifyContext (.enter kind))

end ConvertM

end SqlAlgebra
