import SqlAlgebra.Text.Numeral
import SqlAlgebra.Yaml.Cursor

/-!
# Texts that run over several lines

A text without quotes and a text in quotes may be broken into lines. A single line end between
two words stands for a space; of several, all but the first are kept. Blanks around line ends
do not count. `Folding` holds what was read of such a text, `Folding.join` decides what the
last gap stands for, and `readPlain` and `readQuoted` read a text of either sort.
-/

namespace SqlAlgebra.Yaml

/-- What was read of a text over several lines. -/
structure Folding where
  /-- The text so far, the latest character first. -/
  done : List Char := []
  /-- The blanks since the last word, the latest first. -/
  blanks : List Char := []
  /-- Whether a line end followed on the last word. -/
  isBroken : Bool := false
  /-- How many line ends followed on that one. -/
  breaks : Nat := 0
deriving Inhabited

namespace Folding

/-- The text so far. -/
def text (f : Folding) : String := String.ofList f.done.reverse

/-- Goes on with a word or a part of one. -/
def append (f : Folding) (word : List Char) : Folding := { f with done := word.reverse ++ f.done }

/-- Takes in the gap since the last word; the flag says whether it goes over a line end. -/
def join (f : Folding) (overLines : Bool) : Folding :=
  let gap :=
    if overLines then
      if f.isBroken && f.breaks == 0 then [' '] else List.replicate f.breaks '\n'
    else f.blanks
  { done := gap ++ f.done }

/-- Notes a blank. -/
def blank (f : Folding) (c : Char) : Folding := { f with blanks := c :: f.blanks }

/-- Notes the first line end after a word, or a further one. -/
def lineEnd (f : Folding) (isFirst : Bool) : Folding :=
  if isFirst then { f with blanks := [], isBroken := true } else { f with breaks := f.breaks + 1 }

end Folding

/-! ## Texts without quotes -/

/-- Whether a text ends at a colon with this after it. -/
def closesPlain (inFlow : Bool) : List Char → Bool
  | [] => true
  | c :: _ => endsWord c || (inFlow && isFlowMark c)

/-- The word of a plain text that characters begin with. -/
def plainWord (inFlow : Bool) : List Char → List Char
  | [] => []
  | c :: cs =>
    if endsWord c || (c == ':' && closesPlain inFlow cs) || (inFlow && isFlowMark c) then []
    else c :: plainWord inFlow cs

/-- Reads the blanks and line ends after a word. -/
def plainGap (indent : Int) : Nat → Folding → Cursor → Reading (Folding × Cursor)
  | 0, f, c => .ok (f, c)
  | fuel + 1, f, c =>
    if isBlank c.peek then
      if !c.isFresh then plainGap indent fuel (f.blank c.peek) (c.advance 1)
      else if c.peek == '\t' && c.column < indent then
        match c.pastGap with
        | .error e => .error e
        | .ok c => if endsLine c.peek then plainGap indent fuel f c else .error .tabIndentation
      else plainGap indent fuel f (c.advance 1)
    else if isLineEnd c.peek then plainGap indent fuel (f.lineEnd !c.isFresh) c.skipLineEnd
    else .ok (f, c)

/-- Reads words and the gaps between them. -/
def plainWords (indent : Int) (inFlow : Bool) : Nat → Folding → Cursor → Reading (Folding × Cursor)
  | 0, f, c => .ok (f, c)
  | fuel + 1, f, c =>
    if c.isAtBound || c.peek == '#' then .ok (f, c)
    else if inFlow && c.peek == '-' && isFlowMark (c.peekAt 1) then .error (.unexpected '-')
    else
      let word := plainWord inFlow c.rest
      let f := if word.isEmpty then f else (f.join c.isFresh).append word
      let c := c.skip word.length
      if isBlank c.peek || isLineEnd c.peek then
        match plainGap indent (c.rest.length + 1) f c with
        | .error e => .error e
        | .ok (f, c) =>
          if !inFlow && c.column < indent then .ok (f, c)
          else plainWords indent inFlow fuel f c
      else .ok (f, c)

/-- Reads a text without quotes, all of whose lines are indented to the column `indent` at
least. -/
def readPlain (indent : Int) (inFlow : Bool) (c : Cursor) : Reading (String × Cursor) :=
  if inFlow && c.column < indent then .error .badIndentation
  else (plainWords indent inFlow (c.rest.length + 1) {} c).map fun (f, c) => (f.text, c)

/-! ## Texts in quotes -/

/-- The characters that letters after a backslash stand for. -/
def escape? : Char → Option Nat
  | '0' => some 0x00
  | 'a' => some 0x07
  | 'b' => some 0x08
  | 't' => some 0x09
  | '\t' => some 0x09
  | 'n' => some 0x0A
  | 'v' => some 0x0B
  | 'f' => some 0x0C
  | 'r' => some 0x0D
  | 'e' => some 0x1B
  | ' ' => some 0x20
  | '"' => some 0x22
  | '/' => some 0x2F
  | '\\' => some 0x5C
  | 'N' => some 0x85
  | '_' => some 0xA0
  | 'L' => some 0x2028
  | 'P' => some 0x2029
  | _ => none

/-- How many hexadecimal digits follow a letter after a backslash. -/
def hexLength? : Char → Option Nat
  | 'x' => some 2
  | 'u' => some 4
  | 'U' => some 8
  | _ => none

/-- Reads an escape, the backslash first. -/
def readEscape (c : Cursor) : Reading (Char × Cursor) :=
  match escape? (c.peekAt 1), hexLength? (c.peekAt 1) with
  | some n, _ => .ok (Char.ofNat n, c.skip 2)
  | none, some length =>
    let digits := (c.rest.drop 2).take length
    match digits.length == length, (Text.natural? 16 digits).bind Text.character? with
    | true, some ch => .ok (ch, c.skip (2 + length))
    | _, _ => .error .badEscape
  | none, none => .error .badEscape

/-- Reads the characters of a word in quotes; the flag says whether the word ends in a line end
that is left out. -/
def quotedWord (isSingle : Bool) : Nat → Folding → Cursor → Reading (Bool × Folding × Cursor)
  | 0, f, c => .ok (false, f, c)
  | fuel + 1, f, c =>
    if endsWord c.peek then .ok (false, f, c)
    else if isSingle then
      if c.peek == '\'' then
        if c.peekAt 1 == '\'' then quotedWord isSingle fuel (f.append ['\'']) (c.skip 2)
        else .ok (false, f, c)
      else quotedWord isSingle fuel (f.append [c.peek]) (c.skip 1)
    else if c.peek == '"' then .ok (false, f, c)
    else if c.peek == '\\' then
      if isLineEnd (c.peekAt 1) then .ok (true, f, (c.skip 1).skipLineEnd)
      else
        match readEscape c with
        | .error e => .error e
        | .ok (ch, c) => quotedWord isSingle fuel (f.append [ch]) c
    else quotedWord isSingle fuel (f.append [c.peek]) (c.skip 1)

/-- Reads the blanks and line ends between words in quotes; the flag says whether there was a
line end. -/
def quotedGap (indent : Int) : Nat → Bool → Folding → Cursor → Reading (Bool × Folding × Cursor)
  | 0, overLines, f, c => .ok (overLines, f, c)
  | fuel + 1, overLines, f, c =>
    if isBlank c.peek then
      if !overLines then quotedGap indent fuel overLines (f.blank c.peek) (c.advance 1)
      else if c.peek == '\t' && c.column < indent then .error .tabIndentation
      else quotedGap indent fuel overLines f (c.advance 1)
    else if isLineEnd c.peek then
      quotedGap indent fuel true (f.lineEnd !overLines) c.skipLineEnd
    else .ok (overLines, f, c)

/-- Reads words in quotes up to the closing quote. -/
def quotedWords (isSingle : Bool) (indent : Int) :
    Nat → Folding → Cursor → Reading (Folding × Cursor)
  | 0, _, _ => .error .unclosed
  | fuel + 1, f, c =>
    if c.isAtBound || c.peek == endMark then .error .unclosed
    else if c.column < indent then .error .badIndentation
    else
      match quotedWord isSingle (c.rest.length + 1) f c with
      | .error e => .error e
      | .ok (overLines, f, c) =>
        if c.peek == (if isSingle then '\'' else '"') then .ok (f, c)
        else
          match quotedGap indent (c.rest.length + 1) overLines f c with
          | .error e => .error e
          | .ok (overLines, f, c) => quotedWords isSingle indent fuel (f.join overLines) c

/-- Whether a character may follow on a text in quotes. -/
def followsQuoted (inFlow sameLine : Bool) (c : Char) : Bool :=
  endsLine c || (c == ':' && (inFlow || sameLine)) ||
    (inFlow && (c == ',' || c == '\x7d' || c == ']'))

/-- Reads a text in quotes, the opening quote first, all of whose lines are indented to the
column `indent` at least. -/
def readQuoted (isSingle : Bool) (indent : Int) (inFlow : Bool) (start : Cursor) :
    Reading (String × Cursor) := do
  let (f, c) ← quotedWords isSingle indent (start.rest.length + 1) {} (start.skip 1)
  let c ← (c.skip 1).pastGap
  if followsQuoted inFlow (start.line == c.line) c.peek then return (f.text, c)
  else throw (.unexpected c.peek)

end SqlAlgebra.Yaml
