import SqlAlgebra.Yaml.Cursor

/-!
# Block texts

A text may stand in a block of its own: a bar keeps its line ends, an angle folds them. The
lines of the block are indented more than what is around it; how much the first one tells,
unless a digit does. `Chomping` says which line ends at the end of the block belong to the
text.
-/

namespace SqlAlgebra.Yaml

/-- Which line ends at the end of a block belong to its text. -/
inductive Chomping
  /-- The one after the last line. -/
  | clip
  /-- None. -/
  | strip
  /-- All of them. -/
  | keep
deriving DecidableEq, Repr

/-- The way of chomping that a mark stands for. -/
def Chomping.ofMark? : Char → Option Chomping
  | '+' => some .keep
  | '-' => some .strip
  | _ => none

/-- How the first line of a block describes it. -/
structure BlockHeader where
  chomping : Chomping := .clip
  /-- How much the block is indented more than what is around it. -/
  increment : Option Nat := none
deriving DecidableEq, Repr

/-- Reads a digit that tells the indentation, if there is one. -/
def readIncrement (c : Cursor) : Reading (Option Nat × Cursor) :=
  if c.peek == '0' then .error .badBlockHeader
  else if c.peek.isDigit then .ok (some (c.peek.toNat - 48), c.skip 1)
  else .ok (none, c)

/-- Reads the marks after the bar or the angle: one for chomping and a digit, in either
order. -/
def readHeader (c : Cursor) : Reading (BlockHeader × Cursor) := do
  match Chomping.ofMark? c.peek with
  | some chomping =>
    let (increment, c) ← readIncrement (c.skip 1)
    return (⟨chomping, increment⟩, c)
  | none =>
    let (increment, c) ← readIncrement c
    match increment, Chomping.ofMark? c.peek with
    | some _, some chomping => return (⟨chomping, increment⟩, c.skip 1)
    | _, _ => return (⟨.clip, increment⟩, c)

/-- Skips the indentation of a line and empty lines in front of it; gives how many there
were. -/
def skipIndentation (indent : Nat) : Nat → Nat → Cursor → Nat × Cursor
  | 0, breaks, c => (breaks, c)
  | fuel + 1, breaks, c =>
    let blanks := (c.rest.take (indent - c.column)).takeWhile (· == ' ')
    let c := c.advance blanks.length
    if isLineEnd c.peek then skipIndentation indent fuel (breaks + 1) c.skipLineEnd
    else (breaks, c)

/-- Skips to the first line with something on it; gives how many empty lines there were and how
far the most indented of them all is. -/
def skipEmptyLines : Nat → Nat → Nat → Cursor → Nat × Nat × Cursor
  | 0, breaks, widest, c => (breaks, widest, c)
  | fuel + 1, breaks, widest, c =>
    let c := c.advance (c.rest.takeWhile (· == ' ')).length
    let widest := max widest c.column
    if isLineEnd c.peek then skipEmptyLines fuel (breaks + 1) widest c.skipLineEnd
    else (breaks, widest, c)

/-- What was read of a block text. -/
structure BlockText where
  /-- The lines so far, the latest character first. -/
  done : List Char := []
  /-- Whether the last line has a line end. -/
  isBroken : Bool := false
  /-- How many empty lines followed. -/
  breaks : Nat
  /-- Whether the last line begins with a blank. -/
  afterBlank : Bool := false

/-- What stands between the last line and the next, the latest character first: in a folded
text a line end between lines that do not begin with blanks is a space. -/
def BlockText.separator (isLiteral nextBlank : Bool) (t : BlockText) : List Char :=
  let empty := List.replicate t.breaks '\n'
  if !isLiteral && t.isBroken && !t.afterBlank && !nextBlank then
    if t.breaks == 0 then [' '] else empty
  else if t.isBroken then empty ++ ['\n'] else empty

/-- Reads the lines of a block. -/
def blockLines (isLiteral : Bool) (indent : Nat) : Nat → BlockText → Cursor → BlockText × Cursor
  | 0, t, c => (t, c)
  | fuel + 1, t, c =>
    if c.column == indent && c.peek != endMark && !(indent == 0 && c.isAtMarker '.') then
      let nextBlank := isBlank c.peek
      let line := c.rest.takeWhile fun ch => !endsLine ch
      let done := line.reverse ++ t.separator isLiteral nextBlank ++ t.done
      let c := c.advance line.length
      if c.peek == endMark then ({ done, breaks := 0, afterBlank := nextBlank }, c)
      else
        let (breaks, c) := skipIndentation indent (c.rest.length + 1) 0 c.skipLineEnd
        let t := { done, isBroken := true, breaks, afterBlank := nextBlank }
        blockLines isLiteral indent fuel t c
    else (t, c)

/-- The text of a block that the text around ends with and that has no line of its own. -/
def emptyBlock (chomping : Chomping) (sameLine hasBreak : Bool) (breaks : Nat) : String :=
  let first := if hasBreak then "\n" else ""
  match chomping with
  | .strip => ""
  | .clip => if sameLine then "" else first
  | .keep =>
    if sameLine then "" else if breaks == 0 then first
    else String.ofList (List.replicate breaks '\n')

/-- The text of a block with the line ends at its end. -/
def BlockText.finish (chomping : Chomping) (indent : Nat) (t : BlockText) (c : Cursor) : String :=
  let last :=
    if chomping = .strip then []
    else
      (if t.isBroken then ['\n'] else []) ++
        (if c.peek == endMark && max indent 1 ≤ c.column then ['\n'] else [])
  let further := if chomping = .keep then List.replicate t.breaks '\n' else []
  String.ofList (t.done.reverse ++ last ++ further)

/-- Reads a block text, the bar or the angle first, inside a block that is indented to the
column `outer`. -/
def readBlock (isLiteral : Bool) (outer : Int) (start : Cursor) : Reading (String × Cursor) := do
  let (header, c) ← readHeader (start.skip 1)
  let c ← c.pastGap
  if !endsLine c.peek then throw .badBlockHeader
  let hasBreak := isLineEnd c.peek
  let c := c.skipLineEnd
  if c.peek == '\t' then throw .tabIndentation
  let fuel := c.rest.length + 1
  let (indent, breaks, c) := match header.increment with
    | some n =>
      let indent := if 0 ≤ outer then outer.toNat + n else n
      (indent, skipIndentation indent fuel 0 c)
    | none =>
      let (breaks, widest, c) := skipEmptyLines fuel 0 0 c
      (max widest (outer + 1).toNat, breaks, c)
  if c.peek == endMark then
    return (emptyBlock header.chomping (c.line == start.line) hasBreak breaks, c)
  if c.column < indent && outer < c.column then throw .badIndentation
  let (t, c) := blockLines isLiteral indent (c.rest.length + 1) { breaks } c
  return (t.finish header.chomping indent c, c)

end SqlAlgebra.Yaml
