import SqlAlgebra.Text.Reading

/-!
# Strings and names of TOML

Strings stand in double quotes with escapes or in single quotes without; three quotes hold a
string of several lines, whose first line end does not count. A name is a string in single
quote marks of either sort, or a bare word, and names with dots between them are a path.
-/

namespace SqlAlgebra.Toml

open SqlAlgebra.Text (Reading stuck)

/-! ## Lines -/

/-- Blanks inside a line. -/
def isSpace (c : Char) : Bool := c == ' ' || c == '\t'

/-- The text after leading blanks. -/
def skipSpace (cs : List Char) : List Char := cs.dropWhile isSpace

/-- The characters that may stand in strings and comments as they are. -/
def isPrintable (c : Char) : Bool := c == '\t' || (0x20 ≤ c.toNat && c.toNat != 0x7F)

/-- The text after a line end, if it begins with one. -/
def afterLineEnd? : List Char → Option (List Char)
  | '\n' :: cs => some cs
  | '\r' :: '\n' :: cs => some cs
  | _ => none

/-- The text after a comment, if it begins with one. -/
def skipComment : List Char → List Char
  | '#' :: cs => cs.dropWhile isPrintable
  | cs => cs

/-- Reads the end of a line: blanks, a comment, and the line end or the end of the text. -/
def endLine (cs : List Char) : Reading (List Char) :=
  match skipComment (skipSpace cs) with
  | [] => .ok []
  | rest =>
    match afterLineEnd? rest with
    | some rest => .ok rest
    | none => .error (stuck rest)

/-- Skips blanks, line ends and comments. -/
def skipLines : Nat → List Char → List Char
  | 0, cs => cs
  | fuel + 1, cs =>
    let rest := skipComment (skipSpace cs)
    match afterLineEnd? rest with
    | some rest => skipLines fuel rest
    | none => rest

/-- Skips blanks and line ends. -/
def skipGaps : Nat → List Char → List Char
  | 0, cs => cs
  | fuel + 1, cs =>
    let rest := skipSpace cs
    match afterLineEnd? rest with
    | some rest => skipGaps fuel rest
    | none => rest

/-! ## Strings -/

/-- The characters that letters after a backslash stand for. -/
def escape? : Char → Option Nat
  | 'b' => some 0x08
  | 't' => some 0x09
  | 'n' => some 0x0A
  | 'f' => some 0x0C
  | 'r' => some 0x0D
  | '"' => some 0x22
  | '\\' => some 0x5C
  | _ => none

/-- Reads an escape after its backslash. -/
def readEscape : List Char → Reading (Char × List Char)
  | [] => .error .endOfText
  | 'u' :: cs => Text.hexCharacter 4 cs
  | 'U' :: cs => Text.hexCharacter 8 cs
  | c :: cs =>
    match escape? c with
    | some n => .ok (Char.ofNat n, cs)
    | none => .error .badEscape

/-- Reads a string on one line after its opening quote; `done` holds its characters so far,
the latest first. -/
def readShort (quote : Char) : Nat → List Char → List Char → Reading (String × List Char)
  | 0, cs, _ => .error (stuck cs)
  | _, [], _ => .error .endOfText
  | fuel + 1, c :: cs, done =>
    if c == quote then .ok (String.ofList done.reverse, cs)
    else if c == '\\' && quote == '"' then
      match readEscape cs with
      | .error e => .error e
      | .ok (ch, cs) => readShort quote fuel cs (ch :: done)
    else if isPrintable c then readShort quote fuel cs (c :: done)
    else .error (.unexpected c)

/-- Reads a string of several lines after its opening quotes. Up to two quotes may stand
directly in front of the closing ones. -/
def readLong (quote : Char) : Nat → List Char → List Char → Reading (String × List Char)
  | 0, cs, _ => .error (stuck cs)
  | _, [], _ => .error .endOfText
  | fuel + 1, c :: cs, done =>
    if c == quote then
      let count := ((c :: cs).takeWhile (· == quote)).length
      let rest := (c :: cs).drop count
      if count < 3 then readLong quote fuel rest (List.replicate count quote ++ done)
      else if count ≤ 5 then
        .ok (String.ofList (done.reverse ++ List.replicate (count - 3) quote), rest)
      else .error (.unexpected quote)
    else if c == '\\' && quote == '"' then
      match afterLineEnd? (skipSpace cs) with
      | some rest => readLong quote fuel (skipGaps (rest.length + 1) rest) done
      | none =>
        match readEscape cs with
        | .error e => .error e
        | .ok (ch, cs) => readLong quote fuel cs (ch :: done)
    else
      match afterLineEnd? (c :: cs) with
      | some rest => readLong quote fuel rest ('\n' :: done)
      | none =>
        if isPrintable c then readLong quote fuel cs (c :: done) else .error (.unexpected c)

/-- Reads a string, its first quote first. -/
def readString (cs : List Char) : Reading (String × List Char) :=
  match cs with
  | a :: b :: c :: rest =>
    if a == b && b == c then readLong a (cs.length + 1) ((afterLineEnd? rest).getD rest) []
    else readShort a (cs.length + 1) (b :: c :: rest) []
  | a :: rest => readShort a (cs.length + 1) rest []
  | [] => .error .endOfText

/-! ## Names -/

/-- The characters of bare names. -/
def isBareChar (c : Char) : Bool := c.isAlphanum || c == '-' || c == '_'

/-- Reads a name. -/
def readName (cs : List Char) : Reading (String × List Char) :=
  match cs with
  | '"' :: rest => readShort '"' (cs.length + 1) rest []
  | '\'' :: rest => readShort '\'' (cs.length + 1) rest []
  | cs =>
    let (word, rest) := cs.span isBareChar
    if word.isEmpty then .error (stuck cs) else .ok (String.ofList word, rest)

/-- Reads the names of a path; `done` holds those read, the latest first. -/
def readNames : Nat → List Char → List String → Reading (List String × List Char)
  | 0, cs, _ => .error (stuck cs)
  | fuel + 1, cs, done =>
    match readName (skipSpace cs) with
    | .error e => .error e
    | .ok (name, rest) =>
      match skipSpace rest with
      | '.' :: rest => readNames fuel rest (name :: done)
      | rest => .ok ((name :: done).reverse, rest)

/-- How deeply values may nest, and how long paths may be. -/
def nestingLimit : Nat := 79

/-- Reads a path: its last name and those in front of it. -/
def readPath (cs : List Char) : Reading ((List String × String) × List Char) := do
  let (names, rest) ← readNames (cs.length + 1) cs []
  if nestingLimit < names.length then throw .tooDeep
  return ((names.dropLast, names.getLastD ""), rest)

end SqlAlgebra.Toml
