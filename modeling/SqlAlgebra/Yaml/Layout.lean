import SqlAlgebra.Yaml.Block
import SqlAlgebra.Yaml.Folded
import SqlAlgebra.Yaml.Property

/-!
# The tokens of a YAML text

Tokens are read one after the other. What they mean depends on the layout: how far the open
blocks are indented, how many brackets are open, and where the name of a field may have begun.
That a word was the name of a field shows only at the colon after it; the token for the name is
then put in front of the word, and the token for its mapping in front of that.

`tokens` reads a whole text. Every step uses up a character, of which there are finitely many.
-/

namespace SqlAlgebra.Yaml

/-- A block, or a value that has to be indented more than its block. -/
structure Level where
  /-- The indentation outside. -/
  outer : Int
  /-- Whether the level is a block, which shows in the tokens. -/
  isBlock : Bool
deriving DecidableEq, Repr

/-- A place where the name of a field may have begun. -/
structure NameStart where
  isPossible : Bool := false
  /-- Whether nothing but a name may stand there. -/
  isRequired : Bool := false
  /-- How many tokens stand in front of the name. -/
  position : Nat := 0
  index : Nat := 0
  line : Nat := 0
  column : Nat := 0
deriving DecidableEq, Repr

/-- What the meaning of the next token depends on, and the tokens so far. -/
structure Layout where
  cursor : Cursor
  /-- The tokens so far, the latest first. -/
  done : List Token := []
  /-- The column of the innermost level. -/
  indent : Int := -1
  /-- The open levels, the innermost first. -/
  levels : List Level := []
  /-- Where the name of a field may have begun. -/
  name : NameStart := {}
  /-- The same for what is around each open bracket, the innermost first. -/
  outerNames : List NameStart := []
  /-- Whether a name may begin at the next token. -/
  allowsName : Bool := true
  /-- Where a colon counts though no blank follows on it. -/
  adjacentAt : Nat := 0
  /-- Whether fields in brackets are those of a mapping in brackets. -/
  inMapping : Bool := false
  /-- For each open list in brackets, whether a single field stands in it as a mapping. -/
  pairs : List Bool := []

namespace Layout

/-- Whether a bracket is open. -/
def inFlow (s : Layout) : Bool := !s.outerNames.isEmpty

/-- Adds a token. -/
def push (s : Layout) (token : Token) : Layout := { s with done := token :: s.done }

/-- Puts a token after the first `n`. -/
def insertAt (s : Layout) (n : Nat) (token : Token) : Layout :=
  let later := s.done.length - n
  { s with done := s.done.take later ++ token :: s.done.drop later }

/-- Moves the cursor. -/
def moveTo (s : Layout) (c : Cursor) : Layout := { s with cursor := c }

/-! ## Names of fields -/

/-- Notes that a name may begin here. -/
def noteName (s : Layout) : Layout :=
  if s.allowsName then
    let isRequired := !s.inFlow && s.indent == s.cursor.column && s.levels.head?.any (·.isBlock)
    { s with
      name :=
        { isPossible := true
          isRequired
          position := s.done.length
          index := s.cursor.index
          line := s.cursor.line
          column := s.cursor.column } }
  else s

/-- Notes that no name began; fails if only a name may stand there. -/
def dropName (s : Layout) : Reading Layout :=
  if s.name.isPossible && s.name.isRequired then .error .fieldExpected
  else .ok { s with name := { s.name with isPossible := false } }

/-- Drops a name that is not on this line, or too long. -/
def dropStaleName (s : Layout) : Reading Layout :=
  let isStale := s.name.line < s.cursor.line || s.name.index + 1024 < s.cursor.index
  if s.name.isPossible && !s.inFlow && isStale then s.dropName else .ok s

/-! ## Levels -/

/-- Opens a block at a column if it is further in than the innermost level; its token is put
after the first `n`, or at the end. -/
def openBlock (s : Layout) (column : Nat) (n : Option Nat) (token : Token) : Layout :=
  if s.inFlow then s
  else
    let s : Layout := match s.levels with
      | level :: levels =>
        if s.indent ≤ column && !level.isBlock then { s with indent := level.outer, levels }
        else s
      | [] => s
    if s.indent < column then
      let s := { s with levels := ⟨s.indent, true⟩ :: s.levels, indent := column }
      match n with
      | some n => s.insertAt n token
      | none => s.push token
    else s

/-- Closes levels while they are further in than a column. -/
def closeLevels (column : Int) : List Level → Layout → Layout
  | level :: levels, s =>
    if column < s.indent then
      let s := { s with indent := level.outer, levels }
      closeLevels column levels (if level.isBlock then s.push .blockEnd else s)
    else s
  | [], s => s

/-- Closes the levels that a line indented to a column is not part of. -/
def closeTo (s : Layout) (column : Int) : Layout :=
  if s.inFlow then s else closeLevels column s.levels s

/-- Asks for the value that follows to be further in than the innermost block. -/
def indentValue (s : Layout) : Layout :=
  if !s.inFlow && s.levels.head?.any (·.isBlock) then
    { s with levels := ⟨s.indent, false⟩ :: s.levels, indent := s.indent + 1 }
  else s

/-- Closes the levels that are not blocks, up to the innermost block. -/
def closeValues : List Level → Layout → Layout
  | level :: levels, s =>
    if level.isBlock then s
    else closeValues levels { s with indent := level.outer, levels }
  | [], s => s

/-- Closes all levels inside the innermost block. -/
def toBlock (s : Layout) : Layout := closeValues s.levels s

/-! ## Brackets -/

/-- How many brackets may be open at a time. -/
def flowLimit : Nat := 255

/-- Reads an opening bracket. -/
def openFlow (isList : Bool) (s : Layout) : Reading Layout := do
  let s := s.noteName.indentValue
  if flowLimit ≤ s.outerNames.length then throw .tooDeep
  let c ← (s.cursor.skip 1).pastGap
  let s :=
    { s with
      cursor := c
      name := {}
      outerNames := s.name :: s.outerNames
      allowsName := true
      inMapping := s.inMapping || !isList
      pairs := if isList then false :: s.pairs else s.pairs }
  return s.push (if isList then .flowList else .flowMapping)

/-- Closes the mapping that stands for a single field in a list. -/
def closePair (s : Layout) : Layout :=
  match s.pairs with
  | true :: pairs => { s with inMapping := false, pairs := false :: pairs }.push .flowMappingEnd
  | _ => s

/-- Reads a closing bracket. -/
def closeFlow (isList : Bool) (s : Layout) : Reading Layout := do
  let s ← s.dropName
  let s := match s.outerNames with
    | name :: outerNames => { s with name, outerNames }
    | [] => s
  let s := if isList then { s.closePair with pairs := s.pairs.drop 1 } else s
  let c ← (s.cursor.skip 1).pastGap
  let s :=
    { s with
      cursor := c
      allowsName := false
      adjacentAt := if s.inFlow then c.index else s.adjacentAt }
  return s.push (if isList then .flowListEnd else .flowMappingEnd)

/-- Reads a comma. -/
def comma (s : Layout) : Reading Layout := do
  let s ← s.dropName
  let s := { s with allowsName := true }.closePair
  let c ← (s.cursor.skip 1).pastGap
  return (s.moveTo c).push .comma

/-! ## Items and fields -/

/-- Reads the dash of an item. -/
def item (s : Layout) : Reading Layout := do
  if s.inFlow || !s.allowsName then throw .misplacedItem
  let column := s.cursor.column
  let (gap, c) ← (s.cursor.skip 1).skipGap true
  let s := (s.openBlock column none .blockList).moveTo c
  if gap.hasTab && c.peek == '-' && endsWord (c.peekAt 1) then throw .tabIndentation
  let s := if isLineEnd c.peek || isFlowMark c.peek then s.indentValue else s
  let s ← s.dropName
  return { s with allowsName := true }.push .item

/-- Reads the question mark in front of the name of a field. -/
def key (s : Layout) : Reading Layout := do
  if !s.inFlow && !s.allowsName then throw .misplacedMapping
  let s := if s.inFlow then { s with inMapping := true }
    else s.openBlock s.cursor.column none .blockMapping
  let s ← s.dropName
  let c ← Cursor.skipAfterMark (s.cursor.rest.length + 1) false (s.cursor.skip 1)
  if c.peek == '\t' then throw .tabIndentation
  return { s with cursor := c, allowsName := !s.inFlow }.push .key

/-- Skips what stands after a colon if it begins with a tab, which may not stand alone in
front of a word. -/
def skipAfterColon (c : Cursor) : Reading Cursor := do
  if c.peek != '\t' then return c
  let (gap, c) ← c.skipGap true
  if !gap.hasSpace && isNameChar c.peek then throw .tabIndentation
  return c

/-- Reads the colon after the name of a field. -/
def value (s : Layout) : Reading Layout := do
  let start := s.cursor
  let isPair := !s.pairs.isEmpty && !s.inMapping
  let s := if isPair then { s with pairs := true :: s.pairs.drop 1 } else s
  let c ← skipAfterColon (start.skip 1)
  let s := s.moveTo c
  if s.name.isPossible then
    let name := s.name
    if isPair && name.line < start.line then throw .misplacedMapping
    let s := s.insertAt name.position .key
    let s := if isPair then s.insertAt name.position .flowMapping else s
    let s := (s.openBlock name.column (some name.position) .blockMapping).indentValue
    return { s with name := { name with isPossible := false }, allowsName := false }.push .value
  else
    let s := if isPair then s.push .flowMapping else s
    if !s.inFlow && !s.allowsName then throw .misplacedMapping
    let s := (s.openBlock start.column none .blockMapping).indentValue
    return { s with allowsName := !s.inFlow }.push .value

/-! ## Texts and properties -/

/-- Reads a text without quotes. -/
def plain (s : Layout) : Reading Layout := do
  let s := s.noteName.toBlock
  let (content, c) ← readPlain (s.indent + 1) s.inFlow s.cursor
  return { s with cursor := c, allowsName := c.isFresh }.push (.text true content)

/-- Skips to the next token. -/
def skipToToken (s : Layout) : Reading Layout := do
  let (newLine, c) ← Cursor.skipToToken s.indent (s.cursor.rest.length + 1) false s.cursor
  return { s with cursor := c, allowsName := s.allowsName || (newLine && !s.inFlow) }

/-- Reads a text in quotes. -/
def quoted (isSingle : Bool) (s : Layout) : Reading Layout := do
  let s := s.noteName
  let (content, c) ← readQuoted isSingle s.indent s.inFlow s.cursor
  let s ← { s with cursor := c, allowsName := false }.skipToToken
  return { s with adjacentAt := s.cursor.index }.push (.text false content)

/-- Reads a block text. -/
def block (isLiteral : Bool) (s : Layout) : Reading Layout := do
  let s := s.noteName.toBlock
  let (content, c) ← readBlock isLiteral s.indent s.cursor
  return { s with cursor := c, allowsName := true }.push (.text false content)

/-- Reads an anchor or an alias. -/
def anchor (isAlias : Bool) (s : Layout) : Reading Layout := do
  let s := s.noteName
  let (name, c) ← readAnchor s.cursor
  return { s with cursor := c, allowsName := false }.push
    (if isAlias then .alias name else .anchor name)

/-- Reads a tag. -/
def tag (s : Layout) : Reading Layout := do
  let s := s.noteName
  let (token, c) ← readTag s.inFlow s.cursor
  return { s with cursor := c, allowsName := false }.push token

/-! ## Documents -/

/-- Leaves the document: all levels are closed and no name is open. -/
def leave (s : Layout) : Reading Layout := do
  let s ← (s.closeTo (-1)).dropName
  return { s with allowsName := false }

/-- Reads a directive. -/
def directive (s : Layout) : Reading Layout := do
  let s ← s.leave
  let (token, c) ← readDirective s.cursor
  return (s.moveTo c).push token

/-- Reads the marker in front of a document. -/
def documentStart (s : Layout) : Reading Layout := do
  let s ← s.leave
  return (s.moveTo (s.cursor.skip 3)).push .documentStart

/-- Reads the marker after a document. -/
def documentEnd (s : Layout) : Reading Layout := do
  let s ← s.leave
  let c ← (s.cursor.skip 3).pastGap
  if endsLine c.peek then return (s.moveTo c).push .documentEnd else throw (.unexpected c.peek)

/-! ## Tokens -/

/-- Whether the colon at the cursor comes after a name. -/
def isColon (s : Layout) : Bool :=
  let next := s.cursor.peekAt 1
  endsWord next ||
    (s.inFlow && (isFlowMark next || s.cursor.index == s.adjacentAt))

/-- Reads a colon inside brackets, which a bracket may follow directly only after a text in
quotes or a closing bracket. -/
def colon (s : Layout) : Reading Layout :=
  let next := s.cursor.peekAt 1
  if (next == '[' || next == '\x7b') && s.cursor.index != s.adjacentAt then
    .error (.unexpected ':')
  else s.value

/-- Reads a token inside a document. -/
def content (s : Layout) : Reading Layout :=
  let isMark := endsWord (s.cursor.peekAt 1)
  match s.cursor.peek with
  | '[' => s.openFlow true
  | '\x7b' => s.openFlow false
  | ']' => s.closeFlow true
  | '\x7d' => s.closeFlow false
  | ',' => s.comma
  | '-' => if isMark then s.item else s.plain
  | '?' => if isMark then s.key else s.plain
  | ':' => if s.isColon then s.colon else s.plain
  | '*' => s.anchor true
  | '&' => s.anchor false
  | '!' => s.tag
  | '|' => if s.inFlow then s.plain else s.block true
  | '>' => if s.inFlow then s.plain else s.block false
  | '\'' => s.quoted true
  | '"' => s.quoted false
  | '%' => .error (.unexpected '%')
  | '@' => .error (.unexpected '@')
  | c => if c.toNat == 0x60 then .error (.unexpected c) else s.plain

/-- Reads a token; nothing is left at the end of the text. -/
def step (s : Layout) : Reading (Option Layout) := do
  let s ← s.skipToToken
  let s ← s.dropStaleName
  let s := s.closeTo s.cursor.column
  let c := s.cursor
  if c.peek == endMark then return none
  else if c.column == 0 && c.peek == '%' then some <$> s.directive
  else if c.isAtMarker '-' then some <$> s.documentStart
  else if c.isAtMarker '.' then some <$> s.documentEnd
  else if c.column < s.indent then throw .badIndentation
  else some <$> s.content

/-- Closes what is open at the end of the text. -/
def finish (s : Layout) : Reading (List Token) := do
  let s ← s.leave
  return s.done.reverse

/-- Reads tokens to the end of the text. -/
def run : Nat → Layout → Reading (List Token)
  | 0, s => s.finish
  | fuel + 1, s =>
    match s.step with
    | .error e => .error e
    | .ok none => s.finish
    | .ok (some s) => run fuel s

end Layout

/-- The tokens of a text. -/
def tokens (text : String) : Reading (List Token) :=
  let c := Cursor.ofText text
  Layout.run (c.rest.length + 1) { cursor := c }

end SqlAlgebra.Yaml
