import SqlAlgebra.Text.Numeral

/-!
# Reading texts

What the readers of the small formats have in common: a reader takes a text and gives a result
with the text after it, or says why it cannot. Readers that repeat themselves take fuel; the
length of the text is enough, since every step uses up a character.
-/

namespace SqlAlgebra.Text

/-- Why a text cannot be read. -/
inductive Malformed
  | endOfText
  | unexpected (character : Char)
  | badEscape
  | badNumber
  | badDate
  /-- A name stands twice, or for two things. -/
  | repeatedName (name : String)
  /-- A name is not a text. -/
  | badName
  /-- A directive is not known. -/
  | badDirective
  | tooDeep
deriving DecidableEq, Repr

/-- The wording of a malformed text. -/
def Malformed.message : Malformed → String
  | endOfText => "unexpected end of text"
  | unexpected c => "unexpected character '" ++ String.singleton c ++ "'"
  | badEscape => "invalid escape in a string"
  | badNumber => "invalid number"
  | badDate => "invalid date or time"
  | repeatedName name => "'" ++ name ++ "' stands twice"
  | badName => "the name of a field is not a text"
  | badDirective => "unknown directive"
  | tooDeep => "values nested too deeply"

/-- What a reader gives. -/
abbrev Reading (α : Type) := Except Malformed α

/-- The failure at the start of a text. -/
def stuck : List Char → Malformed
  | [] => .endOfText
  | c :: _ => .unexpected c

/-- Takes a character that has to stand here. -/
def expect (c : Char) : List Char → Reading (List Char)
  | [] => .error .endOfText
  | d :: cs => if d == c then .ok cs else .error (.unexpected d)

/-- Takes a word that has to stand here. -/
def expectWord (word : String) (cs : List Char) : Reading (List Char) :=
  if word.toList.isPrefixOf cs then .ok (cs.drop word.length) else .error (stuck cs)

/-- Reads a fixed count of hexadecimal digits. -/
def hexDigits (count : Nat) (cs : List Char) : Reading (Nat × List Char) :=
  let digits := cs.take count
  match natural? 16 digits with
  | some n => if digits.length == count then .ok (n, cs.drop count) else .error .badEscape
  | none => .error .badEscape

/-- Reads the code point of a character in a fixed count of hexadecimal digits. -/
def hexCharacter (count : Nat) (cs : List Char) : Reading (Char × List Char) := do
  let (n, rest) ← hexDigits count cs
  match character? n with
  | some c => return (c, rest)
  | none => throw .badEscape

/-- A text without blanks at either end. -/
def trimmed (p : Char → Bool) (cs : List Char) : List Char :=
  ((cs.dropWhile p).reverse.dropWhile p).reverse

end SqlAlgebra.Text
