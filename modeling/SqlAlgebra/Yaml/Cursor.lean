/-!
# Places in a YAML text

A `Cursor` is a place in a text: what is left of it, and where the place is. The reader asks
for the characters at the cursor and moves it on. Behind the end of the text stands the
character zero, which also ends the text where it occurs inside.

A line ends in a line feed, a carriage return, or both. As long as a line has shown nothing but
blanks the cursor is fresh: indentation is only there.
-/

namespace SqlAlgebra.Yaml

/-! ## Failures -/

/-- Why a text is not a document. -/
inductive Malformed
  /-- A list, mapping or quoted text is not closed. -/
  | unclosed
  /-- A character stands where it has no meaning. -/
  | unexpected (character : Char)
  /-- A line is indented to a level that is not open. -/
  | badIndentation
  /-- A tab stands where a line is indented. -/
  | tabIndentation
  /-- A comment follows directly on something else. -/
  | attachedComment
  /-- An item of a list stands where none may begin. -/
  | misplacedItem
  /-- A field of a mapping stands where none may begin. -/
  | misplacedMapping
  /-- Something else stands where a field of a mapping is expected. -/
  | fieldExpected
  /-- Something else stands where a value is expected. -/
  | valueExpected
  /-- A character may not stand after a backslash. -/
  | badEscape
  /-- The line that opens a block text has more than its marks. -/
  | badBlockHeader
  /-- A directive is not well formed, or stands where none may stand. -/
  | badDirective
  /-- A tag is not well formed, or its handle is not declared. -/
  | badTag
  /-- An anchor or alias has no name. -/
  | namelessAnchor
  /-- An alias stands for a name that no anchor gave. -/
  | unknownAnchor (name : String)
  /-- Lists and mappings in brackets nest too deeply. -/
  | tooDeep
  /-- A field stands twice in a mapping. -/
  | repeatedField (name : String)
  /-- The name of a field is not a text. -/
  | badName
  /-- A number cannot be written out. -/
  | badNumber (text : String)
  /-- The text goes on after its document. -/
  | severalDocuments
deriving DecidableEq, Repr

/-- The wording of a malformed text. -/
def Malformed.message : Malformed → String
  | unclosed => "unclosed list, mapping or quoted text"
  | unexpected c => "unexpected character '" ++ String.singleton c ++ "'"
  | badIndentation => "bad indentation"
  | tabIndentation => "tab used as indentation"
  | attachedComment => "comment without a blank in front"
  | misplacedItem => "item of a list not allowed here"
  | misplacedMapping => "field of a mapping not allowed here"
  | fieldExpected => "field of a mapping expected"
  | valueExpected => "value expected"
  | badEscape => "invalid escape in a quoted text"
  | badBlockHeader => "invalid start of a block text"
  | badDirective => "invalid directive"
  | badTag => "invalid tag"
  | namelessAnchor => "anchor or alias without a name"
  | unknownAnchor name => "unknown anchor '" ++ name ++ "'"
  | tooDeep => "values nested too deeply"
  | repeatedField name => "field '" ++ name ++ "' stands twice"
  | badName => "the name of a field is not a text"
  | badNumber text => "invalid number " ++ text
  | severalDocuments => "more than one document"

/-- What a reader gives. -/
abbrev Reading (α : Type) := Except Malformed α

/-! ## Characters -/

/-- What stands behind the end of a text. -/
def endMark : Char := Char.ofNat 0

/-- Blanks inside a line. -/
def isBlank (c : Char) : Bool := c == ' ' || c == '\t'

/-- Whether a character ends a line that another follows. -/
def isLineEnd (c : Char) : Bool := c == '\n' || c == '\r'

/-- Whether a character ends a line, or the text. -/
def endsLine (c : Char) : Bool := isLineEnd c || c == endMark

/-- Whether a character ends a word. -/
def endsWord (c : Char) : Bool := isBlank c || endsLine c

/-- The characters with a meaning between brackets. -/
def isFlowMark (c : Char) : Bool :=
  c == ',' || c == '[' || c == ']' || c == '\x7b' || c == '\x7d'

/-- The characters of names. -/
def isNameChar (c : Char) : Bool := c.isAlphanum || c == '_' || c == '-'

/-! ## Cursors -/

/-- A place in a text. -/
structure Cursor where
  /-- The text from here on. -/
  rest : List Char
  /-- How many characters stand in front. -/
  index : Nat := 0
  /-- How many lines stand in front. -/
  line : Nat := 0
  /-- How many characters of the line stand in front. -/
  column : Nat := 0
  /-- Whether the line has shown nothing but blanks. -/
  isFresh : Bool := true
deriving Inhabited

namespace Cursor

/-- The start of a text. -/
def ofText (text : String) : Cursor := { rest := text.toList.takeWhile (· != endMark) }

/-- The character some places further on. -/
def peekAt (c : Cursor) (n : Nat) : Char := (c.rest[n]?).getD endMark

/-- The character at the cursor. -/
def peek (c : Cursor) : Char := c.peekAt 0

/-- Moves on over blanks of the line. -/
def advance (c : Cursor) (n : Nat) : Cursor :=
  { c with rest := c.rest.drop n, index := c.index + n, column := c.column + n }

/-- Moves on over characters of the line that are not all blanks. -/
def skip (c : Cursor) (n : Nat) : Cursor :=
  { c.advance n with isFresh := c.isFresh && n == 0 }

/-- Moves on to the next line, if the cursor is at the end of one. -/
def skipLineEnd (c : Cursor) : Cursor :=
  let toNext (n : Nat) : Cursor :=
    { rest := c.rest.drop n, index := c.index + n, line := c.line + 1 }
  match c.rest with
  | '\r' :: '\n' :: _ => toNext 2
  | ch :: _ => if isLineEnd ch then toNext 1 else c
  | [] => c

/-- Moves on to the end of the line. -/
def skipLine (c : Cursor) : Cursor :=
  c.skip (c.rest.takeWhile fun ch => !endsLine ch).length

/-- The characters of a sort from the cursor on, and the place after them. -/
def span (p : Char → Bool) (c : Cursor) : List Char × Cursor :=
  let word := c.rest.takeWhile p
  (word, c.skip word.length)

/-- Whether three characters that mark the bounds of documents stand here, at the start of
a line. -/
def isAtMarker (mark : Char) (c : Cursor) : Bool :=
  c.column == 0 && [mark, mark, mark].isPrefixOf c.rest && endsWord (c.peekAt 3)

/-- Whether a document begins or ends here. -/
def isAtBound (c : Cursor) : Bool := c.isAtMarker '-' || c.isAtMarker '.'

/-- What blanks were skipped. -/
structure Gap where
  hasTab : Bool
  hasSpace : Bool
deriving DecidableEq, Repr

/-- Skips blanks and a comment up to the end of the line. -/
def skipGap (c : Cursor) (tabs : Bool) : Reading (Gap × Cursor) :=
  let blanks := c.rest.takeWhile fun ch => ch == ' ' || (tabs && ch == '\t')
  let gap : Gap := ⟨blanks.contains '\t', blanks.contains ' '⟩
  let c := c.advance blanks.length
  if c.peek == '#' then
    if blanks.isEmpty then .error .attachedComment else .ok (gap, c.skipLine)
  else .ok (gap, c)

/-- `skipGap` where only the place after it matters. -/
def pastGap (c : Cursor) : Reading Cursor := (c.skipGap true).map Prod.snd

/-- Skips blanks, line ends and comments in front of the next token; the flag says whether a
line end was among them. A tab may not stand in front of the column `indent`, unless the line
is empty. -/
def skipToToken (indent : Int) : Nat → Bool → Cursor → Reading (Bool × Cursor)
  | 0, newLine, c => .ok (newLine, c)
  | fuel + 1, newLine, c =>
    if c.peek == '\t' && c.isFresh && c.column < indent then
      match c.pastGap with
      | .error e => .error e
      | .ok c =>
        if endsLine c.peek then skipToToken indent fuel newLine c else .error .tabIndentation
    else if isBlank c.peek then skipToToken indent fuel newLine (c.advance 1)
    else if isLineEnd c.peek then skipToToken indent fuel true c.skipLineEnd
    else if c.peek == '#' then skipToToken indent fuel newLine c.skipLine
    else .ok (newLine, c)

/-- Skips spaces, line ends and comments after the mark of a name, of which there must be
some. -/
def skipAfterMark : Nat → Bool → Cursor → Reading Cursor
  | 0, _, c => .ok c
  | fuel + 1, found, c =>
    if c.peek == ' ' then skipAfterMark fuel true (c.advance 1)
    else if isLineEnd c.peek then skipAfterMark fuel true c.skipLineEnd
    else if c.peek == '#' then skipAfterMark fuel found c.skipLine
    else if found then .ok c
    else .error .misplacedMapping

end Cursor

end SqlAlgebra.Yaml
