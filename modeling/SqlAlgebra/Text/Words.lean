/-!
# Words and their normal form

Operator texts and function names are compared by their words: blanks around and between
words do not matter, nor does the case of ASCII letters. `normalForm` is the spelling that
stands for all of them, and `sameName` the weaker comparison used for aliases, which
ignores case only.
-/

namespace SqlAlgebra.Text

/-- The characters with the Unicode property White_Space. -/
def isBlank (c : Char) : Bool :=
  let n := c.toNat
  (9 ≤ n && n ≤ 13) || n == 0x20 || n == 0x85 || n == 0xA0 || n == 0x1680 ||
    (0x2000 ≤ n && n ≤ 0x200A) || n == 0x2028 || n == 0x2029 || n == 0x202F ||
    n == 0x205F || n == 0x3000

/-- Puts a word in front of others, unless it is empty. -/
def consWord (word : List Char) (rest : List (List Char)) : List (List Char) :=
  if word.isEmpty then rest else word :: rest

/-- The word a text begins with, possibly empty, and the words after it. -/
def splitWords : List Char → List Char × List (List Char)
  | [] => ([], [])
  | c :: cs =>
    let (word, rest) := splitWords cs
    if isBlank c then ([], consWord word rest) else (c :: word, rest)

/-- The maximal blank-free runs of a text, in order. -/
def words (cs : List Char) : List (List Char) :=
  let (word, rest) := splitWords cs
  consWord word rest

/-- Words with one space between neighbours. -/
def joinWords : List (List Char) → List Char
  | [] => []
  | [word] => word
  | word :: rest => word ++ ' ' :: joinWords rest

/-- The words of a text, one space apart. -/
def collapsed (text : String) : String :=
  String.ofList (joinWords (words text.toList))

/-- The words of a text, one space apart, with ASCII letters in upper case. -/
def normalForm (text : String) : String :=
  String.ofList ((joinWords (words text.toList)).map Char.toUpper)

/-- Whether two names agree up to the case of ASCII letters. -/
def sameName (a b : String) : Bool :=
  a.toList.map Char.toLower == b.toList.map Char.toLower

end SqlAlgebra.Text
