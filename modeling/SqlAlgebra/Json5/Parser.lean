import SqlAlgebra.Json.Basic
import SqlAlgebra.Json.Parser
import SqlAlgebra.Text.Reading
import SqlAlgebra.Text.Words

/-!
# Reading JSON5 texts

JSON with comments, names without quotes, strings in either quotes, more ways to write numbers,
and a comma after the last item. `parse` reads a whole text as one value. Whole numbers have 64
bits, or 32 if they are hexadecimal, and are refused beyond.
-/

namespace SqlAlgebra.Json5

open SqlAlgebra.Text (Reading stuck expectWord)

/-! ## Blanks -/

/-- Whether a character ends a line. -/
def isLineEnd (c : Char) : Bool :=
  c == '\n' || c == '\r' || c.toNat == 0x2028 || c.toNat == 0x2029

/-- Whether a character is a blank: one of white space, or the mark of the byte order. -/
def isBlank (c : Char) : Bool :=
  (Text.isBlank c && c.toNat != 0x85) || c.toNat == 0xFEFF

/-- The text after a comment that ends in a star and a slash. -/
def afterComment : List Char → Reading (List Char)
  | [] => .error .endOfText
  | '*' :: '/' :: cs => .ok cs
  | _ :: cs => afterComment cs

/-- Skips blanks and comments. -/
def skipBlanks : Nat → List Char → Reading (List Char)
  | 0, cs => .ok cs
  | fuel + 1, cs =>
    match cs.dropWhile isBlank with
    | '/' :: '/' :: cs => skipBlanks fuel (cs.dropWhile fun c => !isLineEnd c)
    | '/' :: '*' :: cs =>
      match afterComment cs with
      | .error e => .error e
      | .ok cs => skipBlanks fuel cs
    | cs => .ok cs

/-- The text after blanks and comments. -/
def pastBlanks (cs : List Char) : Reading (List Char) := skipBlanks (cs.length + 1) cs

/-! ## Strings and names -/

/-- Reads the character of an escape after `u`, which may be written as two surrogates. -/
def readUnicode (cs : List Char) : Reading (Char × List Char) := do
  let (n, rest) ← Text.hexDigits 4 cs
  match rest with
  | '\\' :: 'u' :: more =>
    if 0xD800 ≤ n && n < 0xDC00 then
      let (low, more) ← Text.hexDigits 4 more
      match Json.ofSurrogates? n low with
      | some c => return (c, more)
      | none => throw .badEscape
    else
      match Text.character? n with
      | some c => return (c, rest)
      | none => throw .badEscape
  | rest =>
    match Text.character? n with
    | some c => return (c, rest)
    | none => throw .badEscape

/-- Reads an escape after its backslash; a line end is left out. -/
def readEscape : List Char → Reading (List Char × List Char)
  | [] => .error .endOfText
  | '\r' :: '\n' :: cs => .ok ([], cs)
  | 'u' :: cs => (readUnicode cs).map fun (c, rest) => ([c], rest)
  | 'x' :: cs => (Text.hexCharacter 2 cs).map fun (c, rest) => ([c], rest)
  | '0' :: cs =>
    if cs.head?.any Char.isDigit then .error .badEscape else .ok ([Char.ofNat 0], cs)
  | c :: cs =>
    if isLineEnd c then .ok ([], cs)
    else if c.isDigit then .error .badEscape
    else
      let ch := match c with
        | 'b' => Char.ofNat 0x08
        | 't' => '\t'
        | 'n' => '\n'
        | 'v' => Char.ofNat 0x0B
        | 'f' => Char.ofNat 0x0C
        | 'r' => '\r'
        | c => c
      .ok ([ch], cs)

/-- Reads a string after its opening quote; `done` holds its characters so far, the latest
first. -/
def readString (quote : Char) : Nat → List Char → List Char → Reading (String × List Char)
  | 0, cs, _ => .error (stuck cs)
  | _, [], _ => .error .endOfText
  | fuel + 1, c :: cs, done =>
    if c == quote then .ok (String.ofList done.reverse, cs)
    else if c == '\\' then
      match readEscape cs with
      | .error e => .error e
      | .ok (chars, cs) => readString quote fuel cs (chars ++ done)
    else if c == '\n' || c == '\r' then .error (.unexpected c)
    else readString quote fuel cs (c :: done)

/-- Whether a name may begin with a character. Of the characters beyond ASCII all but blanks
count as letters. -/
def beginsName (c : Char) : Bool :=
  c.isAlpha || c == '$' || c == '_' || (0xAA ≤ c.toNat && !isBlank c)

/-- Reads a name without quotes; `done` holds its characters so far, the latest first. -/
def readWord : Nat → List Char → List Char → Reading (String × List Char)
  | 0, cs, _ => .error (stuck cs)
  | fuel + 1, cs, done =>
    let finish : Reading (String × List Char) :=
      if done.isEmpty then .error (stuck cs) else .ok (String.ofList done.reverse, cs)
    match cs with
    | '\\' :: 'u' :: rest =>
      match readUnicode rest with
      | .error e => .error e
      | .ok (c, rest) => readWord fuel rest (c :: done)
    | c :: rest =>
      if beginsName c || (c.isDigit && !done.isEmpty) then readWord fuel rest (c :: done)
      else finish
    | [] => finish

/-- Reads the name of a field. -/
def readName (cs : List Char) : Reading (String × List Char) :=
  match cs with
  | '"' :: rest => readString '"' (cs.length + 1) rest []
  | '\'' :: rest => readString '\'' (cs.length + 1) rest []
  | cs => readWord (cs.length + 1) cs []

/-! ## Numbers -/

/-- The exponent that a text begins with, if it has one. -/
def spanExponent : List Char → List Char × List Char
  | e :: cs =>
    let (sign, more) : List Char × List Char := match cs with
      | '+' :: cs => (['+'], cs)
      | '-' :: cs => (['-'], cs)
      | cs => ([], cs)
    let (digits, rest) := more.span Char.isDigit
    if (e == 'e' || e == 'E') && !digits.isEmpty then (e :: sign ++ digits, rest)
    else ([], e :: cs)
  | [] => ([], [])

/-- A whole number of 64 bits. -/
def wholeNumber (text : List Char) : Reading Json :=
  match Text.signed64? 10 text with
  | some i => .ok (.ofInt i)
  | none => .error .badNumber

/-- A finite floating-point number. -/
def finiteNumber (text : List Char) : Reading Json :=
  match Text.float? text with
  | some x => if x.isFinite then .ok (.number (.float x)) else .error .badNumber
  | none => .error .badNumber

/-- Reads a decimal number after its sign. -/
def readDecimal (sign : List Char) (cs : List Char) : Reading (Json × List Char) := do
  let (whole, rest) : List Char × List Char := match cs with
    | '0' :: rest => (['0'], rest)
    | cs => cs.span Char.isDigit
  match rest with
  | '.' :: rest =>
    let (fraction, rest) := rest.span Char.isDigit
    if whole.isEmpty && fraction.isEmpty then throw .badNumber
    let (exponent, rest) := spanExponent rest
    return (← finiteNumber (sign ++ whole ++ '.' :: fraction ++ exponent), rest)
  | rest =>
    if whole.isEmpty then throw (stuck rest)
    match spanExponent rest with
    | ([], rest) => return (← wholeNumber (sign ++ whole), rest)
    | (exponent, rest) => return (← finiteNumber (sign ++ whole ++ exponent), rest)

/-- Reads a hexadecimal number after its mark; it has no sign. -/
def readHex (sign : List Char) (cs : List Char) : Reading (Json × List Char) :=
  let (digits, rest) := cs.span fun c => (Text.digitValue? 16 c).isSome
  match Text.natural? 16 digits with
  | some n => if sign.isEmpty && n < UInt32.size then .ok (.ofNat n, rest) else .error .badNumber
  | none => .error .badNumber

/-- Reads a number after its sign. A plus sign may not stand in front of words. -/
def readMagnitude (sign : List Char) (cs : List Char) : Reading (Json × List Char) :=
  let infinity : Float := 1.0 / 0.0
  match cs with
  | '0' :: 'x' :: rest | '0' :: 'X' :: rest => readHex sign rest
  | 'I' :: _ => do
    let rest ← expectWord "Infinity" cs
    if sign == ['+'] then throw .badNumber
    return (.number (.float (if sign.isEmpty then infinity else -infinity)), rest)
  | 'N' :: _ => do
    let rest ← expectWord "NaN" cs
    if sign == ['+'] then throw .badNumber
    return (.number (.float (0.0 / 0.0)), rest)
  | cs => readDecimal sign cs

/-- Reads a number. -/
def readNumber : List Char → Reading (Json × List Char)
  | '+' :: cs => readMagnitude ['+'] cs
  | '-' :: cs => readMagnitude ['-'] cs
  | cs => readMagnitude [] cs

/-! ## Values -/

mutual

/-- Reads a value. -/
def readValue : Nat → List Char → Reading (Json × List Char)
  | 0, cs => .error (stuck cs)
  | fuel + 1, cs =>
    match cs with
    | 'n' :: _ => (expectWord "null" cs).map fun rest => (.null, rest)
    | 't' :: _ => (expectWord "true" cs).map fun rest => (.bool true, rest)
    | 'f' :: _ => (expectWord "false" cs).map fun rest => (.bool false, rest)
    | '"' :: rest => (readString '"' (cs.length + 1) rest []).map fun (s, rest) => (.string s, rest)
    | '\'' :: rest =>
      (readString '\'' (cs.length + 1) rest []).map fun (s, rest) => (.string s, rest)
    | '[' :: rest => readItems fuel rest []
    | '\x7b' :: rest => readFields fuel rest []
    | cs => readNumber cs

/-- Reads the items of an array; `done` holds those read, the latest first. -/
def readItems : Nat → List Char → List Json → Reading (Json × List Char)
  | 0, cs, _ => .error (stuck cs)
  | fuel + 1, cs, done =>
    match pastBlanks cs with
    | .error e => .error e
    | .ok (']' :: rest) => .ok (.array done.reverse, rest)
    | .ok cs =>
      match readValue fuel cs with
      | .error e => .error e
      | .ok (item, rest) =>
        match pastBlanks rest with
        | .error e => .error e
        | .ok (',' :: rest) => readItems fuel rest (item :: done)
        | .ok (']' :: rest) => .ok (.array (item :: done).reverse, rest)
        | .ok rest => .error (stuck rest)

/-- Reads the fields of an object; `done` holds those read, the latest first. -/
def readFields : Nat → List Char → List (String × Json) → Reading (Json × List Char)
  | 0, cs, _ => .error (stuck cs)
  | fuel + 1, cs, done =>
    match pastBlanks cs with
    | .error e => .error e
    | .ok ('\x7d' :: rest) => .ok (.object done.reverse, rest)
    | .ok cs =>
      match readField fuel cs with
      | .error e => .error e
      | .ok (field, rest) =>
        match pastBlanks rest with
        | .error e => .error e
        | .ok (',' :: rest) => readFields fuel rest (field :: done)
        | .ok ('\x7d' :: rest) => .ok (.object (field :: done).reverse, rest)
        | .ok rest => .error (stuck rest)

/-- Reads a field of an object. -/
def readField : Nat → List Char → Reading ((String × Json) × List Char)
  | 0, cs => .error (stuck cs)
  | fuel + 1, cs => do
    let (name, rest) ← readName cs
    let rest ← Text.expect ':' (← pastBlanks rest)
    let (value, rest) ← readValue fuel (← pastBlanks rest)
    return ((name, value), rest)

end

/-- Reads a whole text as one value. -/
def parse (text : String) : Reading Json := do
  let cs ← pastBlanks text.toList
  let (json, rest) ← readValue (3 * cs.length + 3) cs
  match ← pastBlanks rest with
  | [] => return json
  | rest => throw (stuck rest)

end SqlAlgebra.Json5
