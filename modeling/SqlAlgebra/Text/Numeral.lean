import SqlAlgebra.Json.Number

/-!
# Numerals

Numbers as they are written in configuration files and environment variables: whole numbers
with an optional sign, in base ten or another base, and floating-point numbers with an
optional fraction and exponent, or as one of the words for infinity and not-a-number.
-/

namespace SqlAlgebra.Text

/-- A text with ASCII letters in lower case. -/
def lowered (cs : List Char) : List Char := cs.map Char.toLower

/-- The value of a digit in a base of at most 16. -/
def digitValue? (base : Nat) (c : Char) : Option Nat :=
  let value? :=
    if '0' ≤ c && c ≤ '9' then some (c.toNat - 48)
    else if 'a' ≤ c && c ≤ 'f' then some (c.toNat - 87)
    else if 'A' ≤ c && c ≤ 'F' then some (c.toNat - 55)
    else none
  value?.filter (· < base)

/-- The value of digits, continuing from a value. -/
def digitsFrom? (base : Nat) : List Char → Nat → Option Nat
  | [], n => some n
  | c :: cs, n => do
    let d ← digitValue? base c
    digitsFrom? base cs (n * base + d)

/-- The value of a non-empty run of digits. -/
def natural? (base : Nat) (cs : List Char) : Option Nat :=
  if cs.isEmpty then none else digitsFrom? base cs 0

/-- The character with a code point, if there is one. -/
def character? (n : Nat) : Option Char :=
  if n < 0xD800 || (0xE000 ≤ n && n < 0x110000) then some (Char.ofNat n) else none

/-- The value of digits with an optional sign. -/
def integer? (base : Nat) : List Char → Option Int
  | '-' :: cs => (natural? base cs).map fun n => -(n : Int)
  | '+' :: cs => (natural? base cs).map Int.ofNat
  | cs => (natural? base cs).map Int.ofNat

/-- A signed whole number of 64 bits. -/
def signed64? (base : Nat) (cs : List Char) : Option Int :=
  (integer? base cs).filter fun i => Int64.minValue.toInt ≤ i && i ≤ Int64.maxValue.toInt

/-- An unsigned whole number of 64 bits; a plus sign is allowed in front. -/
def unsigned64? (cs : List Char) : Option UInt64 :=
  let n? := match cs with
    | '+' :: cs => natural? 10 cs
    | cs => natural? 10 cs
  (n?.filter (· < UInt64.size)).map UInt64.ofNat

/-- The number `digits · 10 ^ exponent`. Numbers far out of range are not computed. -/
def scaled (digits : Nat) (exponent : Int) : Float :=
  let size := (Nat.repr digits).length + exponent
  if digits == 0 || size < -400 then 0.0
  else if 400 < size then 1.0 / 0.0
  else if 0 ≤ exponent then Float.ofScientific digits false exponent.natAbs
  else Float.ofScientific digits true exponent.natAbs

/-- Splits off the digits a text begins with. -/
def spanDigits (cs : List Char) : List Char × List Char := cs.span Char.isDigit

/-- The exponent of a floating-point number: nothing, or `e` and a whole number. -/
def exponent? : List Char → Option Int
  | [] => some 0
  | c :: cs => if c == 'e' || c == 'E' then integer? 10 cs else none

/-- A floating-point number without a sign. -/
def magnitude? (cs : List Char) : Option Float :=
  if lowered cs == "inf".toList || lowered cs == "infinity".toList then some (1.0 / 0.0)
  else if lowered cs == "nan".toList then some (0.0 / 0.0)
  else
    let (whole, rest) := spanDigits cs
    let (fraction, rest) := match rest with
      | '.' :: rest => spanDigits rest
      | rest => ([], rest)
    match natural? 10 (whole ++ fraction), exponent? rest with
    | some digits, some e => some (scaled digits (e - fraction.length))
    | _, _ => none

/-- A floating-point number. -/
def float? : List Char → Option Float
  | '-' :: cs => (magnitude? cs).map fun x => -x
  | '+' :: cs => magnitude? cs
  | cs => magnitude? cs

/-- The text of a floating-point number: the fewest digits that read back, without an
exponent, and without a fraction if there is none. -/
def floatWord (x : Float) : String :=
  if x.isNaN then "NaN"
  else if x.isInf then (if x < 0.0 then "-inf" else "inf")
  else
    let text := (Number.signText x ++ (Decimal.shortest x).positional).toList
    String.ofList (if ['.', '0'].isSuffixOf text then text.take (text.length - 2) else text)

end SqlAlgebra.Text
