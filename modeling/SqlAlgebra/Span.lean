/-!
# Source spans

Every piece of a parsed statement remembers which characters of the SQL text it came from.
A `Span` is that pair of offsets; `Span.zero` marks what the compiler made up itself.
-/

namespace SqlAlgebra

/-- Inclusive offsets of a piece of the source text. -/
structure Span where
  start : UInt64 := 0
  stop : UInt64 := 0
deriving DecidableEq, Repr, Inhabited

namespace Span

/-- The position of anything that does not stand in the source text. -/
def zero : Span := {}

/-- Whether a span is the made-up one. -/
def isZero (s : Span) : Bool := s == zero

/-- A span in messages: `start..stop`. -/
def text (s : Span) : String :=
  s.start.toNat.repr ++ ".." ++ s.stop.toNat.repr

@[simp] theorem isZero_zero : zero.isZero = true := by decide

end Span

end SqlAlgebra
