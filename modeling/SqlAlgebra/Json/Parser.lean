import SqlAlgebra.Json.Number

/-!
# Reading JSON texts

`Json.parse` reads a whole text as one value: blanks around it are skipped, anything else
after it is refused. The caller bounds how deeply arrays and objects may nest. Every step
of the reader uses up a character or a unit of fuel, and the fuel is twice the length of
the text, so it never runs out on a text that is otherwise in order.
-/

namespace SqlAlgebra.Json

/-- Why a text is not a JSON value. -/
inductive Malformed
  | endOfText
  | unexpected (character : Char)
  | badEscape
  | controlCharacter
  | numberTooLarge
  | tooDeep
  | trailingText
deriving DecidableEq, Repr

/-- The wording of a malformed text. -/
def Malformed.message : Malformed → String
  | endOfText => "unexpected end of text"
  | unexpected c => "unexpected character '" ++ String.singleton c ++ "'"
  | badEscape => "invalid escape in a string"
  | controlCharacter => "control character in a string"
  | numberTooLarge => "number out of range"
  | tooDeep => "values nested too deeply"
  | trailingText => "text after the value"

/-- What a reader gives: a result and the text after it. -/
abbrev Reading (α : Type) := Except Malformed (α × List Char)

/-- The blanks of JSON. -/
def isSpace (c : Char) : Bool := c == ' ' || c == '\n' || c == '\t' || c == '\r'

/-- The text after leading blanks. -/
def skipSpace (cs : List Char) : List Char := cs.dropWhile isSpace

/-- The failure at the start of a text. -/
def stuck (cs : List Char) : Malformed :=
  match cs with
  | [] => .endOfText
  | c :: _ => .unexpected c

/-- The value of a hexadecimal digit. -/
def hexValue? (c : Char) : Option Nat :=
  if '0' ≤ c && c ≤ '9' then some (c.toNat - 48)
  else if 'a' ≤ c && c ≤ 'f' then some (c.toNat - 87)
  else if 'A' ≤ c && c ≤ 'F' then some (c.toNat - 55)
  else none

/-- The value of four hexadecimal digits. -/
def hexWord? (a b c d : Char) : Option Nat := do
  let a ← hexValue? a
  let b ← hexValue? b
  let c ← hexValue? c
  let d ← hexValue? d
  return ((a * 16 + b) * 16 + c) * 16 + d

/-- The character of a pair of surrogates. -/
def ofSurrogates? (high low : Nat) : Option Char :=
  if 0xD800 ≤ high && high < 0xDC00 && 0xDC00 ≤ low && low < 0xE000 then
    some (Char.ofNat (0x10000 + (high - 0xD800) * 0x400 + (low - 0xDC00)))
  else none

/-- The character a one-letter escape stands for. -/
def escaped? : Char → Option Char
  | '"' => some '"'
  | '\\' => some '\\'
  | '/' => some '/'
  | 'b' => some (Char.ofNat 8)
  | 'f' => some (Char.ofNat 12)
  | 'n' => some '\n'
  | 'r' => some '\r'
  | 't' => some '\t'
  | _ => none

/-- Reads a string after its opening quote; `done` holds its characters so far, last first. -/
def readString : List Char → List Char → Reading String
  | [], _ => .error .endOfText
  | '"' :: rest, done => .ok (String.ofList done.reverse, rest)
  | '\\' :: 'u' :: a :: b :: c :: d :: rest, done =>
    match hexWord? a b c d with
    | none => .error .badEscape
    | some n =>
      if 0xD800 ≤ n && n < 0xE000 then
        match rest with
        | '\\' :: 'u' :: a' :: b' :: c' :: d' :: rest' =>
          match (hexWord? a' b' c' d').bind (ofSurrogates? n) with
          | some ch => readString rest' (ch :: done)
          | none => .error .badEscape
        | _ => .error .badEscape
      else readString rest (Char.ofNat n :: done)
  | '\\' :: c :: rest, done =>
    match escaped? c with
    | some ch => readString rest (ch :: done)
    | none => .error .badEscape
  | c :: rest, done =>
    if c.toNat < 0x20 then .error .controlCharacter else readString rest (c :: done)

/-- The values of the digits a text begins with, and the text after them. -/
def readDigits (cs : List Char) : List Nat × List Char :=
  ((cs.takeWhile Char.isDigit).map fun c => c.toNat - 48, cs.dropWhile Char.isDigit)

/-- Reads a fractional part, if there is one. -/
def readFraction : List Char → Reading (Option (List Nat))
  | '.' :: rest =>
    match readDigits rest with
    | ([], rest) => .error (stuck rest)
    | (ds, rest) => .ok (some ds, rest)
  | cs => .ok (none, cs)

/-- Reads the digits of an exponent after its sign. -/
def readExponentDigits (negative : Bool) (cs : List Char) : Reading (Option Int) :=
  match readDigits cs with
  | ([], rest) => .error (stuck rest)
  | (ds, rest) =>
    let n : Nat := ds.foldl (fun n d => n * 10 + d) 0
    .ok (some (if negative then -(n : Int) else n), rest)

/-- Reads an exponent, if there is one. -/
def readExponent : List Char → Reading (Option Int)
  | 'e' :: '+' :: rest | 'E' :: '+' :: rest => readExponentDigits false rest
  | 'e' :: '-' :: rest | 'E' :: '-' :: rest => readExponentDigits true rest
  | 'e' :: rest | 'E' :: rest => readExponentDigits false rest
  | cs => .ok (none, cs)

/-- Reads a number after its sign. -/
def readMagnitude (negative : Bool) (cs : List Char) : Reading Json :=
  match readDigits cs with
  | ([], _) => .error (stuck cs)
  | (0 :: _ :: _, _) => .error (.unexpected '0')
  | (whole, rest) =>
    match readFraction rest with
    | .error e => .error e
    | .ok (fraction, rest) =>
      match readExponent rest with
      | .error e => .error e
      | .ok (exponent, rest) =>
        match Number.ofParts? negative whole fraction exponent with
        | some n => .ok (.number n, rest)
        | none => .error .numberTooLarge

/-- Reads a number. -/
def readNumber : List Char → Reading Json
  | '-' :: rest => readMagnitude true rest
  | cs => readMagnitude false cs

mutual

/-- Reads a value with at most `depth` more levels of arrays and objects. -/
def readValue : Nat → Nat → List Char → Reading Json
  | 0, _, cs => .error (stuck cs)
  | fuel + 1, depth, cs =>
    match skipSpace cs with
    | 'n' :: 'u' :: 'l' :: 'l' :: rest => .ok (.null, rest)
    | 't' :: 'r' :: 'u' :: 'e' :: rest => .ok (.bool true, rest)
    | 'f' :: 'a' :: 'l' :: 's' :: 'e' :: rest => .ok (.bool false, rest)
    | '"' :: rest =>
      match readString rest [] with
      | .error e => .error e
      | .ok (s, rest) => .ok (.string s, rest)
    | '[' :: rest =>
      match depth with
      | 0 => .error .tooDeep
      | depth + 1 =>
        match skipSpace rest with
        | ']' :: rest => .ok (.array [], rest)
        | rest => readItems fuel depth rest []
    | '\x7b' :: rest =>
      match depth with
      | 0 => .error .tooDeep
      | depth + 1 =>
        match skipSpace rest with
        | '\x7d' :: rest => .ok (.object [], rest)
        | rest => readFields fuel depth rest []
    | rest => readNumber rest

/-- Reads the rest of an array. -/
def readItems : Nat → Nat → List Char → List Json → Reading Json
  | 0, _, cs, _ => .error (stuck cs)
  | fuel + 1, depth, cs, done =>
    match readValue fuel depth cs with
    | .error e => .error e
    | .ok (item, rest) =>
      match skipSpace rest with
      | ',' :: rest => readItems fuel depth rest (item :: done)
      | ']' :: rest => .ok (.array (item :: done).reverse, rest)
      | rest => .error (stuck rest)

/-- Reads the rest of an object. -/
def readFields : Nat → Nat → List Char → List (String × Json) → Reading Json
  | 0, _, cs, _ => .error (stuck cs)
  | fuel + 1, depth, cs, done =>
    match skipSpace cs with
    | '"' :: rest =>
      match readString rest [] with
      | .error e => .error e
      | .ok (name, rest) =>
        match skipSpace rest with
        | ':' :: rest =>
          match readValue fuel depth rest with
          | .error e => .error e
          | .ok (value, rest) =>
            match skipSpace rest with
            | ',' :: rest => readFields fuel depth rest ((name, value) :: done)
            | '\x7d' :: rest => .ok (.object ((name, value) :: done).reverse, rest)
            | rest => .error (stuck rest)
        | rest => .error (stuck rest)
    | rest => .error (stuck rest)

end

/-- Reads a whole text as one value with at most `depth` levels of arrays and objects. -/
def parseWithin (depth : Nat) (text : String) : Except Malformed Json :=
  let cs := text.toList
  match readValue (2 * cs.length + 2) depth cs with
  | .error e => .error e
  | .ok (json, rest) => if (skipSpace rest).isEmpty then .ok json else .error .trailingText

/-- Reads a whole text as one value, however deeply it nests. -/
def parse (text : String) : Except Malformed Json :=
  parseWithin text.length text

end SqlAlgebra.Json
