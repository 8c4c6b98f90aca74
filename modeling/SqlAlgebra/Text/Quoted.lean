import SqlAlgebra.Text.Hidden

/-!
# Texts in diagnostics

Diagnostics show a text in double quotes. What would not be visible there is escaped: line
breaks and tabs by a letter, every other hidden character by its number.
-/

namespace SqlAlgebra.Text

/-- A number in lower-case hexadecimal digits. -/
def hexText (n : Nat) : List Char := Nat.toDigits 16 n

/-- A character between the quotes. -/
def quotedChar (c : Char) : List Char :=
  match c with
  | '"' => ['\\', '"']
  | '\\' => ['\\', '\\']
  | '\n' => ['\\', 'n']
  | '\r' => ['\\', 'r']
  | '\t' => ['\\', 't']
  | c =>
    if c.toNat == 0 then ['\\', '0']
    else if isHidden c then '\\' :: 'u' :: '\x7b' :: hexText c.toNat ++ ['\x7d']
    else [c]

/-- A text as diagnostics show it. -/
def quoted (s : String) : String :=
  String.ofList ('"' :: s.toList.flatMap quotedChar ++ ['"'])

end SqlAlgebra.Text
