import SqlAlgebra.Json.Basic
import SqlAlgebra.Text.Reading

/-!
# Reading RON texts

Object notation with structures in round brackets: fields with names make a group, values
without names a list, and a name in front of the brackets does not matter. Square brackets hold
lists and curly brackets maps. A name alone stands for nothing. `parse` reads a whole text as
one value.
-/

namespace SqlAlgebra.Ron

open SqlAlgebra.Text (Reading stuck expect expectWord)

/-! ## Blanks -/

/-- Whether a character is a blank. -/
def isBlank (c : Char) : Bool := c == ' ' || c == '\n' || c == '\t' || c == '\r'

/-- The text after comments nested to a depth, and after the rest of the outermost one. -/
def afterComment : Nat → List Char → Reading (List Char)
  | _, [] => .error .endOfText
  | 0, cs => .ok cs
  | depth + 1, '*' :: '/' :: cs => if depth == 0 then .ok cs else afterComment depth cs
  | depth + 1, '/' :: '*' :: cs => afterComment (depth + 2) cs
  | depth + 1, _ :: cs => afterComment (depth + 1) cs

/-- Skips blanks and comments. -/
def skipBlanks : Nat → List Char → Reading (List Char)
  | 0, cs => .ok cs
  | fuel + 1, cs =>
    match cs.dropWhile isBlank with
    | '/' :: '/' :: cs => skipBlanks fuel (cs.dropWhile (· != '\n'))
    | '/' :: '*' :: cs =>
      match afterComment 1 cs with
      | .error e => .error e
      | .ok cs => skipBlanks fuel cs
    | cs => .ok cs

/-- The text after blanks and comments. -/
def pastBlanks (cs : List Char) : Reading (List Char) := skipBlanks (cs.length + 1) cs

/-! ## Names -/

/-- Whether a name may begin with a character. -/
def beginsName (c : Char) : Bool := c.isAlpha || c == '_'

/-- The characters of names. -/
def isNameChar (c : Char) : Bool := c.isAlphanum || c == '_'

/-- The characters of raw names. -/
def isRawChar (c : Char) : Bool := isNameChar c || c == '.' || c == '+' || c == '-'

/-- Whether a text begins with a word that does not go on. -/
def beginsWith (word : String) (cs : List Char) : Bool :=
  word.toList.isPrefixOf cs && !((cs.drop word.length).head?.any isNameChar)

/-- The name that a text begins with, if it does, and the text after it. A name with other
characters than letters, digits and underscores has to be marked as raw. -/
def name? (cs : List Char) : Option (String × List Char) :=
  let plain : Option (String × List Char) :=
    let (name, rest) := cs.span isNameChar
    if cs.head?.any beginsName && !rest.head?.any isRawChar then some (String.ofList name, rest)
    else none
  match cs with
  | 'r' :: '"' :: _ => none
  | ['r'] => none
  | 'r' :: '#' :: rest =>
    let (name, rest) := rest.span isRawChar
    if name.isEmpty then none else some (String.ofList name, rest)
  | _ => plain

/-! ## Strings -/

/-- The characters that letters after a backslash stand for. -/
def escape? : Char → Option Char
  | '\'' => some '\''
  | '"' => some '"'
  | '\\' => some '\\'
  | 'n' => some '\n'
  | 'r' => some '\r'
  | 't' => some '\t'
  | '0' => some (Char.ofNat 0)
  | _ => none

/-- Reads an escape after its backslash. -/
def readEscape : List Char → Reading (Char × List Char)
  | [] => .error .endOfText
  | 'x' :: cs => Text.hexCharacter 2 cs
  | 'u' :: '\x7b' :: cs =>
    let digits := (cs.take 6).takeWhile (· != '\x7d')
    match cs.drop digits.length, (Text.natural? 16 digits).bind Text.character? with
    | '\x7d' :: rest, some c => .ok (c, rest)
    | _, _ => .error .badEscape
  | c :: cs =>
    match escape? c with
    | some ch => .ok (ch, cs)
    | none => .error .badEscape

/-- Reads a string after its opening quote; `done` holds its characters so far, the latest
first. -/
def readString : Nat → List Char → List Char → Reading (String × List Char)
  | 0, cs, _ => .error (stuck cs)
  | _, [], _ => .error .endOfText
  | _, '"' :: cs, done => .ok (String.ofList done.reverse, cs)
  | fuel + 1, '\\' :: cs, done =>
    match readEscape cs with
    | .error e => .error e
    | .ok (c, cs) => readString fuel cs (c :: done)
  | fuel + 1, c :: cs, done => readString fuel cs (c :: done)

/-- Reads a raw string up to a closing quote with hashes after it. -/
def readRaw (closing : List Char) : List Char → List Char → Reading (String × List Char)
  | [], _ => .error .endOfText
  | c :: cs, done =>
    if closing.isPrefixOf (c :: cs) then
      .ok (String.ofList done.reverse, (c :: cs).drop closing.length)
    else readRaw closing cs (c :: done)

/-- Reads a raw string after its `r`. -/
def readRawString (cs : List Char) : Reading (String × List Char) := do
  let (hashes, rest) := cs.span (· == '#')
  readRaw ('"' :: hashes) (← expect '"' rest) []

/-- Reads a single character after its opening quote. -/
def readChar : List Char → Reading (String × List Char)
  | [] => .error .endOfText
  | '\\' :: cs => do
    let (c, rest) ← readEscape cs
    return (String.singleton c, ← expect '\'' rest)
  | c :: cs =>
    if c == '\'' then .error (.unexpected c)
    else (expect '\'' cs).map fun rest => (String.singleton c, rest)

/-! ## Numbers -/

/-- The base that a text begins with, and the text after it. -/
def spanBase : List Char → Nat × List Char
  | '0' :: 'x' :: cs => (16, cs)
  | '0' :: 'o' :: cs => (8, cs)
  | '0' :: 'b' :: cs => (2, cs)
  | cs => (10, cs)

/-- Whether a character may stand in a whole number. -/
def isWholeChar (c : Char) : Bool := (Text.digitValue? 16 c).isSome || c == '_'

/-- Whether a character may stand in a floating-point number. -/
def isFloatChar (c : Char) : Bool :=
  c.isDigit || c == 'e' || c == 'E' || c == '.' || c == '+' || c == '-' || c == '_'

/-- The sign that a text begins with, and the text after it. -/
def spanSign : List Char → Option Char × List Char
  | '+' :: cs => (some '+', cs)
  | '-' :: cs => (some '-', cs)
  | cs => (none, cs)

/-- A whole number that a text begins with: one with a sign has 64 bits, one without may also
be the floating-point number nearest to it. -/
def whole? (cs : List Char) : Option (Json × List Char) := do
  let (sign, rest) := spanSign cs
  let (base, rest) := spanBase rest
  let (digits, rest) := rest.span isWholeChar
  if digits.head? == some '_' then none
  else
    let n ← Text.natural? base (digits.filter (· != '_'))
    let i : Int := if sign == some '-' then -(n : Int) else n
    if Int64.minValue.toInt ≤ i && i ≤ Int64.maxValue.toInt then some (.ofInt i, rest)
    else if sign.isNone && n < UInt64.size then some (.number (.float (Float.ofNat n)), rest)
    else none

/-- Reads a floating-point number. -/
def readFloat (cs : List Char) : Reading (Json × List Char) :=
  let (_, magnitude) := spanSign cs
  let text :=
    if beginsWith "inf" magnitude || beginsWith "NaN" magnitude then
      cs.take (cs.length - magnitude.length + 3)
    else cs.takeWhile isFloatChar
  match Text.float? text with
  | some x => .ok (.number (.float x), cs.drop text.length)
  | none => .error .badNumber

/-- Reads a number: a floating-point number if more of the text belongs to such a number than
to a whole number, or if there is no whole number. -/
def readNumber (cs : List Char) : Reading (Json × List Char) :=
  let (_, magnitude) := spanSign cs
  if (magnitude.takeWhile isWholeChar).length < (magnitude.takeWhile isFloatChar).length then
    readFloat cs
  else
    match whole? cs with
    | some result => .ok result
    | none => readFloat cs

/-! ## Values -/

/-- How deeply values may nest. -/
def nestingLimit : Nat := 128

/-- Whether the text in an opened bracket begins with the name of a field. -/
def beginsField (cs : List Char) : Bool :=
  match pastBlanks cs with
  | .error _ => false
  | .ok cs =>
    match name? cs with
    | none => false
    | some (_, rest) =>
      match pastBlanks rest with
      | .ok (':' :: _) => true
      | _ => false

/-- Reads what stands after an item: a comma, or nothing in front of the closing bracket. -/
def afterItem (closing : Char) (cs : List Char) : Reading (List Char) := do
  match ← pastBlanks cs with
  | ',' :: rest => pastBlanks rest
  | rest => if rest.head? == some closing then return rest else throw (stuck rest)

mutual

/-- Reads a value with at most `depth` more levels. -/
def readValue : Nat → Nat → List Char → Reading (Json × List Char)
  | 0, _, cs => .error (stuck cs)
  | fuel + 1, depth, cs =>
    if beginsWith "true" cs then .ok (.bool true, cs.drop 4)
    else if beginsWith "false" cs then .ok (.bool false, cs.drop 5)
    else if beginsWith "Some" cs then
      match depth with
      | 0 => .error .tooDeep
      | depth + 1 => readOption fuel depth (cs.drop 4)
    else if beginsWith "None" cs then .ok (.null, cs.drop 4)
    else if ['(', ')'].isPrefixOf cs then .ok (.null, cs.drop 2)
    else if beginsWith "inf" cs || beginsWith "-inf" cs || beginsWith "NaN" cs then readFloat cs
    else
      match name? cs with
      | some (_, rest) =>
        match pastBlanks rest with
        | .error e => .error e
        | .ok rest => readStructure fuel depth rest
      | none =>
        match cs with
        | '(' :: _ => readStructure fuel depth cs
        | '[' :: rest => readNested fuel depth ']' rest
        | '\x7b' :: rest => readNested fuel depth '\x7d' rest
        | '"' :: rest =>
          (readString (cs.length + 1) rest []).map fun (s, rest) => (.string s, rest)
        | 'r' :: rest => (readRawString rest).map fun (s, rest) => (.string s, rest)
        | '\'' :: rest => (readChar rest).map fun (s, rest) => (.string s, rest)
        | '.' :: _ => readFloat cs
        | c :: _ =>
          if c.isDigit || c == '+' || c == '-' then readNumber cs else .error (.unexpected c)
        | [] => .error .endOfText

/-- Reads the value of an option after its word. -/
def readOption : Nat → Nat → List Char → Reading (Json × List Char)
  | 0, _, cs => .error (stuck cs)
  | fuel + 1, depth, cs => do
    let rest ← expect '(' (← pastBlanks cs)
    let (value, rest) ← readValue fuel depth (← pastBlanks rest)
    let rest ← afterItem ')' rest
    return (value, ← expect ')' rest)

/-- Reads what stands after a name: nothing, or values in round brackets. -/
def readStructure : Nat → Nat → List Char → Reading (Json × List Char)
  | 0, _, cs => .error (stuck cs)
  | fuel + 1, depth, cs =>
    match cs with
    | '(' :: rest => readNested fuel depth ')' rest
    | cs => .ok (.null, cs)

/-- Reads what stands in an opened bracket. -/
def readNested : Nat → Nat → Char → List Char → Reading (Json × List Char)
  | 0, _, _, cs => .error (stuck cs)
  | fuel + 1, depth, closing, cs =>
    match depth with
    | 0 => .error .tooDeep
    | depth + 1 =>
      match pastBlanks cs with
      | .error e => .error e
      | .ok rest =>
        if closing == '\x7d' || (closing == ')' && beginsField rest) then
          readFields fuel depth closing rest []
        else readItems fuel depth closing rest []

/-- Reads the items of a list; `done` holds those read, the latest first. -/
def readItems : Nat → Nat → Char → List Char → List Json → Reading (Json × List Char)
  | 0, _, _, cs, _ => .error (stuck cs)
  | fuel + 1, depth, closing, cs, done =>
    if cs.head? == some closing then .ok (.array done.reverse, cs.drop 1)
    else
      match readValue fuel depth cs with
      | .error e => .error e
      | .ok (item, rest) =>
        match afterItem closing rest with
        | .error e => .error e
        | .ok rest => readItems fuel depth closing rest (item :: done)

/-- Reads the fields of a group or a map; `done` holds those read, the latest first. -/
def readFields :
    Nat → Nat → Char → List Char → List (String × Json) → Reading (Json × List Char)
  | 0, _, _, cs, _ => .error (stuck cs)
  | fuel + 1, depth, closing, cs, done =>
    if cs.head? == some closing then .ok (.object done.reverse, cs.drop 1)
    else
      match readName fuel depth closing cs with
      | .error e => .error e
      | .ok (name, rest) =>
        match readField fuel depth closing rest with
        | .error e => .error e
        | .ok (value, rest) => readFields fuel depth closing rest ((name, value) :: done)

/-- Reads the name of a field: a word in round brackets, and a value in curly ones, which has to
be a text. -/
def readName : Nat → Nat → Char → List Char → Reading (String × List Char)
  | 0, _, _, cs => .error (stuck cs)
  | fuel + 1, depth, closing, cs =>
    if closing == ')' then
      match name? cs with
      | some result => .ok result
      | none => .error (stuck cs)
    else
      match readValue fuel depth cs with
      | .error e => .error e
      | .ok (.string name, rest) => .ok (name, rest)
      | .ok _ => .error .badName

/-- Reads the value of a field with the colon in front and the comma after it. -/
def readField : Nat → Nat → Char → List Char → Reading (Json × List Char)
  | 0, _, _, cs => .error (stuck cs)
  | fuel + 1, depth, closing, cs => do
    let rest ← expect ':' (← pastBlanks cs)
    let (value, rest) ← readValue fuel depth (← pastBlanks rest)
    return (value, ← afterItem closing rest)

end

/-! ## Texts -/

/-- The names that the directive in front of a text may list. -/
def directives : List String := ["unwrap_newtypes", "implicit_some", "unwrap_variant_newtypes"]

/-- Reads the names of a directive. -/
def readDirectiveNames : Nat → List Char → Reading (List Char)
  | 0, cs => .error (stuck cs)
  | fuel + 1, cs => do
    match name? cs with
    | none => throw (stuck cs)
    | some (name, rest) =>
      if !directives.contains name then throw .badDirective
      match ← pastBlanks rest with
      | ',' :: rest =>
        match ← pastBlanks rest with
        | ')' :: rest => return ')' :: rest
        | rest => readDirectiveNames fuel rest
      | rest => return rest

/-- Takes words with blanks after each of them. -/
def expectAll : List String → List Char → Reading (List Char)
  | [], cs => .ok cs
  | word :: words, cs => do expectAll words (← pastBlanks (← expectWord word cs))

/-- Skips the directives in front of a text. -/
def skipDirectives : Nat → List Char → Reading (List Char)
  | 0, cs => .ok cs
  | fuel + 1, cs =>
    match cs with
    | '#' :: _ => do
      let rest ← expectAll ["#", "!", "[", "enable", "("] cs
      let rest ← readDirectiveNames (rest.length + 1) rest
      skipDirectives fuel (← expectAll [")", "]"] rest)
    | cs => .ok cs

/-- Reads a whole text as one value. -/
def parse (text : String) : Reading Json := do
  let cs ← pastBlanks text.toList
  let cs ← skipDirectives (cs.length + 1) cs
  let (json, rest) ← readValue (4 * cs.length + 4) nestingLimit cs
  match ← pastBlanks rest with
  | [] => return json
  | rest => throw (stuck rest)

end SqlAlgebra.Ron
