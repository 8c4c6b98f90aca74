import SqlAlgebra.Json.Basic
import SqlAlgebra.Text.Reading
import SqlAlgebra.Text.Words

/-!
# Reading INI texts

A text is a sequence of sections, each with a name in square brackets, that hold fields; a
field is a name, an equals sign or colon, and a text up to the end of the line. Fields in front
of the first section belong to none. A comment begins in the first column of a line.

The name of a field runs up to its mark, over line ends too; blanks around it do not count.
-/

namespace SqlAlgebra.Ini

open SqlAlgebra.Text (Reading stuck)

/-- Reads an escape after its backslash; a line end is left out together with the character
after it. -/
def readEscape : List Char → Reading (List Char × List Char)
  | [] => .error .endOfText
  | '\n' :: cs => .ok ([], cs.drop 1)
  | 'x' :: cs => (Text.hexCharacter 4 cs).map fun (c, rest) => ([c], rest)
  | c :: cs =>
    let ch := match c with
      | '0' => Char.ofNat 0
      | 'a' => Char.ofNat 7
      | 'b' => Char.ofNat 8
      | 't' => '\t'
      | 'r' => '\r'
      | 'n' => '\n'
      | c => c
    .ok ([ch], cs)

/-- Reads characters up to one of a sort, which is left where it is; `done` holds those read,
the latest first. Only a text that may end the whole may lack such a character. -/
def readUntil (p : Char → Bool) (mayEnd : Bool) :
    Nat → List Char → List Char → Reading (List Char × List Char)
  | 0, cs, _ => .error (stuck cs)
  | _, [], done => if mayEnd then .ok (done.reverse, []) else .error .endOfText
  | fuel + 1, c :: cs, done =>
    if p c then .ok (done.reverse, c :: cs)
    else if c == '\\' then
      match readEscape cs with
      | .error e => .error e
      | .ok (chars, cs) => readUntil p mayEnd fuel cs (chars.reverse ++ done)
    else readUntil p mayEnd fuel cs (c :: done)

/-- Whether a character ends a line. -/
def isLineEnd (c : Char) : Bool := c == '\n' || c == '\r'

/-- Reads the value of a field after its mark: a part in quotes, if it begins with one, and the
rest of the line. -/
def readValue (cs : List Char) : Reading (List Char × List Char) :=
  let fuel := cs.length + 1
  match cs.dropWhile fun c => Text.isBlank c && !isLineEnd c with
  | c :: cs =>
    if c == '"' || c == '\'' then do
      let (quoted, rest) ← readUntil (· == c) false fuel cs []
      let (tail, rest) ← readUntil isLineEnd true fuel (rest.drop 1) []
      return (quoted ++ tail, rest)
    else readUntil isLineEnd true fuel (c :: cs) []
  | [] => .ok ([], [])

/-- A text without blanks at either end. -/
def tidy (cs : List Char) : String := String.ofList (Text.trimmed Text.isBlank cs)

/-- Skips blanks; the flag says whether the text after them begins a line. -/
def skipBlanks : Bool → List Char → Bool × List Char
  | atStart, [] => (atStart, [])
  | atStart, c :: cs =>
    if c == '\n' then skipBlanks true cs
    else if Text.isBlank c then skipBlanks false cs
    else (atStart, c :: cs)

/-- A section with its name, if it has one, and its fields, the latest first. -/
structure Section where
  name : Option String := none
  fields : List (String × Json) := []

/-- What is read so far: the closed sections, the latest first, and the open one. -/
structure Sections where
  done : List Section := []
  current : Section := {}

/-- Opens a section. -/
def Sections.openSection (s : Sections) (name : String) : Sections :=
  { done := s.current :: s.done, current := { name := some name } }

/-- Adds a field to the open section. -/
def Sections.addField (s : Sections) (name : String) (value : String) : Sections :=
  { s with current := { s.current with fields := (name, .string value) :: s.current.fields } }

/-- Sections as fields: those of a section without a name stand for themselves. -/
def Sections.fields (s : Sections) : List (String × Json) :=
  (s.current :: s.done).reverse.flatMap fun sec =>
    match sec.name with
    | none => sec.fields.reverse
    | some name => [(name, .object sec.fields.reverse)]

/-- Reads comments, sections and fields. -/
def readSections : Nat → Bool → List Char → Sections → Reading Sections
  | 0, _, cs, _ => .error (stuck cs)
  | fuel + 1, atStart, cs, done =>
    match skipBlanks atStart cs with
    | (_, []) => .ok done
    | (atStart, c :: cs) =>
      if c == ';' || c == '#' then
        if atStart then readSections fuel true ((cs.dropWhile (· != '\n')).drop 1) done
        else .error (.unexpected c)
      else if c == '[' then
        match readUntil (· == ']') false (cs.length + 1) cs [] with
        | .error e => .error e
        | .ok (name, rest) => readSections fuel false (rest.drop 1) (done.openSection (tidy name))
      else
        match readUntil (fun c => c == '=' || c == ':') false (cs.length + 2) (c :: cs) [] with
        | .error e => .error e
        | .ok (name, rest) =>
          if (tidy name).isEmpty then .error (stuck rest)
          else
            match readValue (rest.drop 1) with
            | .error e => .error e
            | .ok (value, rest) =>
              readSections fuel false rest (done.addField (tidy name) (tidy value))

/-- Reads a text. -/
def parse (text : String) : Reading Json := do
  let cs := text.toList
  return .object (← readSections (cs.length + 1) true cs {}).fields

end SqlAlgebra.Ini
