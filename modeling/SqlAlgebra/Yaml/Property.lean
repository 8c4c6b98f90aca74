import SqlAlgebra.Text.Numeral
import SqlAlgebra.Yaml.Cursor
import SqlAlgebra.Yaml.Token

/-!
# Tags, anchors and directives

A value may carry a tag, which says of what sort it is, and an anchor, which names it so that
an alias can stand for it again. Directives in front of a document tell the version of the
language and declare handles of tags.
-/

namespace SqlAlgebra.Yaml

/-! ## Tags -/

/-- The characters of a tag written in full. -/
def isUriChar (c : Char) : Bool :=
  c.isAlphanum || "-#;/?:@&=+$,_.!~*'()[]%".toList.contains c

/-- The characters of a tag behind its handle. -/
def isTagChar (c : Char) : Bool := isUriChar c && !isFlowMark c && c != '!'

/-- The byte that a percent sign and two hexadecimal digits stand for. -/
def escapedByte? (c : Cursor) : Option Nat :=
  if c.peek == '%' then Text.natural? 16 [c.peekAt 1, c.peekAt 2] else none

/-- How many bytes a character has that begins with a byte. -/
def byteCount? (byte : Nat) : Option Nat :=
  if byte < 0x80 then some 1
  else if 0xC0 ≤ byte && byte < 0xE0 then some 2
  else if 0xE0 ≤ byte && byte < 0xF0 then some 3
  else if 0xF0 ≤ byte && byte < 0xF8 then some 4
  else none

/-- Reads the further bytes of a character. -/
def furtherBytes : Nat → Nat → Cursor → Reading (Nat × Cursor)
  | 0, code, c => .ok (code, c)
  | n + 1, code, c =>
    match escapedByte? c with
    | some byte =>
      if 0x80 ≤ byte && byte < 0xC0 then furtherBytes n (code * 256 + byte) (c.skip 3)
      else .error .badTag
    | none => .error .badTag

/-- Reads a character written as bytes; the bytes are taken as the digits of its code point. -/
def readBytes (c : Cursor) : Reading (Char × Cursor) := do
  let some byte := escapedByte? c | throw .badTag
  let some count := byteCount? byte | throw .badTag
  let (code, c) ← furtherBytes (count - 1) byte (c.skip 3)
  let some ch := Text.character? code | throw .badTag
  return (ch, c)

/-- Reads characters of a sort, some of which may be written as bytes. -/
def readUri (p : Char → Bool) : Nat → List Char → Cursor → Reading (List Char × Cursor)
  | 0, done, c => .ok (done.reverse, c)
  | fuel + 1, done, c =>
    if !p c.peek then .ok (done.reverse, c)
    else if c.peek == '%' then
      match readBytes c with
      | .error e => .error e
      | .ok (ch, c) => readUri p fuel (ch :: done) c
    else readUri p fuel (c.peek :: done) (c.skip 1)

/-- Reads the handle of a tag, which begins with an exclamation mark and may end in one. -/
def readHandle (c : Cursor) : Reading (List Char × Cursor) :=
  if c.peek != '!' then .error .badTag
  else
    let (name, c) := (c.skip 1).span isNameChar
    if c.peek == '!' then .ok ('!' :: name ++ ['!'], c.skip 1) else .ok ('!' :: name, c)

/-- Whether a handle needs a declaration: it ends in an exclamation mark of its own. -/
def isNamedHandle (handle : List Char) : Bool :=
  2 ≤ handle.length && handle.getLast? == some '!'

/-- Reads a tag, the exclamation mark first. -/
def readTag (inFlow : Bool) (start : Cursor) : Reading (Token × Cursor) := do
  let fuel := start.rest.length + 1
  let (handle, suffix, c) ←
    if start.peekAt 1 == '<' then do
      let (uri, c) ← readUri isUriChar fuel [] (start.skip 2)
      if c.peek != '>' then throw .badTag
      pure ([], uri, c.skip 1)
    else do
      let (handle, c) ← readHandle start
      let (suffix, c) ← readUri isTagChar fuel [] c
      if isNamedHandle handle then
        if suffix.isEmpty then throw .badTag
        pure (handle, suffix, c)
      else
        match handle.drop 1 ++ suffix with
        | [] => pure ([], ['!'], c)
        | suffix => pure (['!'], suffix, c)
  if endsWord c.peek || (inFlow && isFlowMark c.peek) then
    return (.tag (String.ofList handle) (String.ofList suffix), c)
  else throw .badTag

/-! ## Anchors -/

/-- The characters of the names of anchors. -/
def isAnchorChar (c : Char) : Bool :=
  !endsWord c && !isFlowMark c && c.toNat != 0xFEFF

/-- Reads the name of an anchor or alias, its mark first. -/
def readAnchor (c : Cursor) : Reading (String × Cursor) :=
  let (name, c) := (c.skip 1).span isAnchorChar
  if name.isEmpty then .error .namelessAnchor else .ok (String.ofList name, c)

/-! ## Directives -/

/-- Moves on over blanks. -/
def skipBlanks (c : Cursor) : Cursor := c.advance (c.rest.takeWhile isBlank).length

/-- Reads a number of a version, of at most nine digits. -/
def readVersionPart (c : Cursor) : Reading Cursor :=
  let (digits, c) := c.span Char.isDigit
  if digits.isEmpty || 9 < digits.length then .error .badDirective else .ok c

/-- Reads what stands after the name of the directive that declares a handle. -/
def readDeclaration (c : Cursor) : Reading (Token × Cursor) := do
  let (handle, c) ← readHandle (skipBlanks c)
  if handle != ['!'] && !isNamedHandle handle then throw .badDirective
  let c := skipBlanks c
  let fuel := c.rest.length + 1
  let (meaning, c) ←
    if c.peek == '!' then do
      let (rest, c) ← readUri isUriChar fuel [] (c.skip 1)
      pure ('!' :: rest, c)
    else if isTagChar c.peek then readUri isUriChar fuel [] c
    else throw .badDirective
  if endsWord c.peek then
    return (.declaration (String.ofList handle) (String.ofList meaning), c)
  else throw .badDirective

/-- Reads a directive, the percent sign first, with the end of its line. A directive of an
unknown name declares nothing. -/
def readDirective (c : Cursor) : Reading (Token × Cursor) := do
  let (name, c) := (c.skip 1).span isNameChar
  if name.isEmpty || !endsWord c.peek then throw .badDirective
  let (token, c) ←
    if name == "YAML".toList then do
      let c ← readVersionPart (skipBlanks c)
      if c.peek != '.' then throw .badDirective
      let c ← readVersionPart (c.skip 1)
      pure (Token.version, c)
    else if name == "TAG".toList then readDeclaration c
    else pure (.declaration "" "", c.skipLine)
  let c ← c.pastGap
  if endsLine c.peek then return (token, c.skipLineEnd) else throw .badDirective

end SqlAlgebra.Yaml
