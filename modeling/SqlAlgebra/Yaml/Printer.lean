import SqlAlgebra.Json.Basic
import SqlAlgebra.Text.Numeral

/-!
# Writing YAML texts

A value is written in block style: every field and item has a line of its own, the items of
a list stand under the field they belong to, and the fields of a nested object two columns
further in. A text is written without quotes where it reads back as the same text; what
looks like another value is put in single quotes, several lines become a literal block, and
a text that neither can hold is put in double quotes with escapes.
-/

namespace SqlAlgebra.Yaml

/-! ## Characters -/

/-- Whether a character may stand in a text as it is. -/
def isPrintable (c : Char) : Bool :=
  let n := c.toNat
  n == 0x0A || (0x20 ≤ n && n ≤ 0x7E) || (0xA0 ≤ n && n ≤ 0xD7FF) ||
    (0xE000 ≤ n && n ≤ 0xFFFD && n != 0xFEFF) || 0x10000 ≤ n

/-- Whether a character ends a line. -/
def isBreak (c : Char) : Bool :=
  let n := c.toNat
  n == 0x0A || n == 0x0D || n == 0x85 || n == 0x2028 || n == 0x2029

/-- Whether a character separates words. -/
def isGap (c : Char) : Bool := c == ' ' || c == '\t' || isBreak c || c.toNat == 0

/-- Whether a text is at its end or goes on with a gap. -/
def gapFollows : List Char → Bool
  | [] => true
  | c :: _ => isGap c

/-! ## What a text looks like -/

/-- Whether some character is directly followed by another, each of a given sort. -/
def hasPair (first second : Char → Bool) : List Char → Bool
  | a :: b :: cs => (first a && second b) || hasPair first second (b :: cs)
  | _ => false

/-- Whether a text has a mark inside it that ends a plain text: a colon before a gap, or a
hash after one. The flag says whether a gap came just before. -/
def hasInnerMark (afterGap : Bool) : List Char → Bool
  | [] => false
  | c :: cs =>
    (c == ':' && gapFollows cs) || (c == '#' && afterGap) || hasInnerMark (isGap c) cs

/-- Whether a text begins with something that a plain text cannot begin with. -/
def hasLeadingMark : List Char → Bool
  | [] => false
  | c :: cs =>
    "#,[]\x7b\x7d&*!|>'\"%@`".toList.contains c ||
      ((c == '?' || c == ':' || c == '-') && gapFollows cs) ||
      ['-', '-', '-'].isPrefixOf (c :: cs) || ['.', '.', '.'].isPrefixOf (c :: cs)

/-- Whether a text has marks of the block structure in it. -/
def hasMark : List Char → Bool
  | [] => false
  | c :: cs => hasLeadingMark (c :: cs) || hasInnerMark (isGap c) cs

/-- Whether a text is a zero followed by more digits, which is no number. -/
def isPaddedNumber (cs : List Char) : Bool :=
  let rest := match cs with
    | '-' :: rest | '+' :: rest => rest
    | rest => rest
  match rest with
  | '0' :: d :: ds => (d :: ds).all Char.isDigit
  | _ => false

/-- The base and the digits of a whole number after its sign. -/
def basedDigits : List Char → Nat × List Char
  | '0' :: 'x' :: ds => (16, ds)
  | '0' :: 'o' :: ds => (8, ds)
  | '0' :: 'b' :: ds => (2, ds)
  | ds => (10, ds)

/-- Whether a text reads as a whole number of at most 128 bits. -/
def isWholeNumber (cs : List Char) : Bool :=
  let (limit, rest) : Nat × List Char := match cs with
    | '-' :: rest => (Nat.pow 2 127, rest)
    | '+' :: rest => (Nat.pow 2 128 - 1, rest)
    | rest => (Nat.pow 2 128 - 1, rest)
  let (base, digits) := basedDigits rest
  !(base == 10 && isPaddedNumber cs) && (Text.natural? base digits).any (· ≤ limit)

/-- The words for infinity and not-a-number. -/
def floatWords : List String :=
  [".inf", ".Inf", ".INF", "+.inf", "+.Inf", "+.INF", "-.inf", "-.Inf", "-.INF", ".nan", ".NaN",
    ".NAN"]

/-- Whether a text reads as a floating-point number. -/
def isFloatingPoint (cs : List Char) : Bool :=
  floatWords.contains (String.ofList cs) ||
    (!isPaddedNumber cs && (Text.float? cs).any (·.isFinite))

/-- The words for nothing and for truth values. -/
def reservedWords : List String :=
  ["null", "Null", "NULL", "~", "true", "True", "TRUE", "false", "False", "FALSE"]

/-- Whether a text could be taken for something that is not a text. -/
def isAmbiguous (cs : List Char) : Bool :=
  cs.isEmpty || reservedWords.contains (String.ofList cs) || isPaddedNumber cs ||
    isWholeNumber cs || isFloatingPoint cs

/-! ## Texts -/

/-- The ways to write a text. -/
inductive Style
  | plain
  | singleQuoted
  | doubleQuoted
  | literal
deriving DecidableEq, Repr

/-- Whether a text can stand between single quotes. -/
def allowsSingle (cs : List Char) : Bool :=
  cs.all isPrintable && !hasPair isBreak (· == ' ') cs && !hasPair (· == ' ') isBreak cs

/-- Whether a text can stand without quotes. -/
def allowsPlain (cs : List Char) : Bool :=
  cs.all isPrintable && !cs.any isBreak && cs.head? != some ' ' && cs.getLast? != some ' ' &&
    !hasMark cs

/-- Whether a text can stand as a literal block. -/
def allowsLiteral (cs : List Char) : Bool :=
  cs.all isPrintable && !hasPair (· == ' ') isBreak cs && cs.getLast? != some ' '

/-- The way a text is written. -/
def style (cs : List Char) : Style :=
  if cs.contains '\n' then
    if allowsLiteral cs then .literal else .doubleQuoted
  else if allowsPlain cs && !isAmbiguous cs then .plain
  else if allowsSingle cs then .singleQuoted
  else .doubleQuoted

/-- Text whose lines after the first, or all of them, are indented. -/
def indentLines (indent : Nat) : Bool → List Char → List Char
  | _, [] => []
  | fresh, c :: cs =>
    if isBreak c then c :: indentLines indent true cs
    else (if fresh then List.replicate indent ' ' else []) ++ c :: indentLines indent false cs

/-- An upper-case hexadecimal digit. -/
def hexDigit (n : Nat) : Char :=
  if n < 10 then Char.ofNat (48 + n) else Char.ofNat (55 + n)

/-- A number in a fixed count of hexadecimal digits. -/
def hexDigits : Nat → Nat → List Char
  | 0, _ => []
  | width + 1, n => hexDigits width (n / 16) ++ [hexDigit (n % 16)]

/-- The letters that stand for single characters after a backslash. -/
def escapes : List (Nat × Char) :=
  [(0x00, '0'), (0x07, 'a'), (0x08, 'b'), (0x09, 't'), (0x0A, 'n'), (0x0B, 'v'), (0x0C, 'f'),
    (0x0D, 'r'), (0x1B, 'e'), (0x22, '"'), (0x5C, '\\'), (0x85, 'N'), (0x2028, 'L'),
    (0x2029, 'P')]

/-- A character between double quotes. -/
def escaped (c : Char) : List Char :=
  match escapes.find? (fun e => e.1 == c.toNat) with
  | some (_, letter) => ['\\', letter]
  | none =>
    if isPrintable c then [c]
    else if c.toNat ≤ 0xFF then '\\' :: 'x' :: hexDigits 2 c.toNat
    else '\\' :: 'u' :: hexDigits 4 c.toNat

/-- What follows the bar of a literal block: whether its lines begin with blanks of their own,
and how many line ends the text has. -/
def literalHints (cs : List Char) : List Char :=
  (if cs.head?.any (fun c => c == ' ' || isBreak c) then ['2'] else []) ++
    match cs.reverse with
    | a :: b :: _ => if isBreak a then (if isBreak b then ['+'] else []) else ['-']
    | [a] => if isBreak a then ['+'] else ['-']
    | [] => ['-']

/-- A text without a line end at its end. -/
def dropLastBreak (cs : List Char) : List Char :=
  if cs.getLast? == some '\n' then cs.dropLast else cs

/-- A text as it is written in a block whose further lines are indented. -/
def text (indent : Nat) (s : String) : String :=
  let cs := s.toList
  String.ofList <| match style cs with
    | .plain => cs
    | .singleQuoted =>
      '\'' :: indentLines indent false (cs.flatMap fun c => if c == '\'' then [c, c] else [c]) ++
        ['\'']
    | .doubleQuoted => '"' :: cs.flatMap escaped ++ ['"']
    | .literal =>
      '|' :: literalHints cs ++ '\n' :: dropLastBreak (indentLines indent true cs)

/-! ## Values -/

/-- A line break and indentation. -/
def newline (indent : Nat) : String :=
  "\n" ++ String.ofList (List.replicate indent ' ')

/-- A value that fits on a line. -/
def scalar (indent : Nat) : Json → String
  | .null => "null"
  | .bool true => "true"
  | .bool false => "false"
  | .number n => n.text
  | .string s => text indent s
  | .array _ => "[]"
  | .object _ => "\x7b\x7d"

mutual

/-- What stands after the name of a field at an indentation. -/
def fieldValue (indent : Nat) : Json → String
  | .array (item :: items) =>
    newline indent ++ (newline indent).intercalate (itemTexts indent (item :: items))
  | .object (field :: fields) =>
    newline (indent + 2) ++
      (newline (indent + 2)).intercalate (fieldTexts (indent + 2) (field :: fields))
  | json => " " ++ scalar (indent + 2) json

/-- What stands after the dash of an item at an indentation. -/
def itemValue (indent : Nat) : Json → String
  | .array (item :: items) =>
    (newline (indent + 2)).intercalate (itemTexts (indent + 2) (item :: items))
  | .object (field :: fields) =>
    (newline (indent + 2)).intercalate (fieldTexts (indent + 2) (field :: fields))
  | json => scalar (indent + 2) json

/-- The items of a list. -/
def itemTexts (indent : Nat) : List Json → List String
  | [] => []
  | item :: items => ("- " ++ itemValue indent item) :: itemTexts indent items

/-- The fields of an object. -/
def fieldTexts (indent : Nat) : List (String × Json) → List String
  | [] => []
  | (name, value) :: fields =>
    (text indent name ++ ":" ++ fieldValue indent value) :: fieldTexts indent fields

end

/-- A value as a whole document, ending in a line break. -/
def document : Json → String
  | .array (item :: items) => (newline 0).intercalate (itemTexts 0 (item :: items)) ++ "\n"
  | .object (field :: fields) => (newline 0).intercalate (fieldTexts 0 (field :: fields)) ++ "\n"
  | json => scalar 2 json ++ "\n"

end SqlAlgebra.Yaml
