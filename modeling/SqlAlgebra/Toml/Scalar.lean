import SqlAlgebra.Json.Basic
import SqlAlgebra.Toml.Text

/-!
# Numbers, dates and times of TOML

Whole numbers of 64 bits in four bases, floating-point numbers, and dates and times. A single
underscore may stand between two digits. A date or time is checked and then kept as a text in
one spelling: a `T` between date and time, a `Z` for no offset written as a letter, and no
zeros at the end of a fraction.
-/

namespace SqlAlgebra.Toml

open SqlAlgebra.Text (Reading expect)

/-! ## Numbers -/

/-- Digits of a sort after the first, with single underscores between them left out. -/
def moreDigits (p : Char → Bool) : List Char → List Char × List Char
  | '_' :: c :: cs =>
    if p c then
      let (ds, rest) := moreDigits p cs
      (c :: ds, rest)
    else ([], '_' :: c :: cs)
  | c :: cs =>
    if p c then
      let (ds, rest) := moreDigits p cs
      (c :: ds, rest)
    else ([], c :: cs)
  | [] => ([], [])

/-- Reads digits of a sort, of which there must be one. -/
def readDigits (p : Char → Bool) : List Char → Reading (List Char × List Char)
  | [] => .error .endOfText
  | c :: cs =>
    if p c then
      let (ds, rest) := moreDigits p cs
      .ok (c :: ds, rest)
    else .error (.unexpected c)

/-- Reads a whole number of 64 bits in a base after the letter that tells it. -/
def readBased (base : Nat) (cs : List Char) : Reading (Json × List Char) := do
  let (digits, rest) ← readDigits (fun c => (Text.digitValue? base c).isSome) cs
  match Text.signed64? base digits with
  | some i => return (.ofInt i, rest)
  | none => throw .badNumber

/-- Reads the whole part of a decimal number, which does not begin with a zero unless it is
one. -/
def readWhole : List Char → Reading (List Char × List Char)
  | '0' :: rest => .ok (['0'], rest)
  | cs => readDigits Char.isDigit cs

/-- Reads an exponent, if there is one. -/
def readExponent : List Char → Reading (List Char × List Char)
  | c :: cs =>
    if c == 'e' || c == 'E' then do
      let (sign, cs) : List Char × List Char := match cs with
        | '+' :: cs => (['+'], cs)
        | '-' :: cs => (['-'], cs)
        | cs => ([], cs)
      let (digits, rest) ← readDigits Char.isDigit cs
      return ('e' :: sign ++ digits, rest)
    else .ok ([], c :: cs)
  | [] => .ok ([], [])

/-- Reads a fraction, if there is one. -/
def readFraction : List Char → Reading (List Char × List Char)
  | '.' :: cs => do
    let (digits, rest) ← readDigits Char.isDigit cs
    return ('.' :: digits, rest)
  | cs => .ok ([], cs)

/-- The number of a sign and a magnitude. A number that rounds to positive infinity is
refused. -/
def decimal (sign whole tail : List Char) : Reading Json :=
  let text := sign ++ whole ++ tail
  if tail.isEmpty then
    match Text.signed64? 10 text with
    | some i => .ok (.ofInt i)
    | none => .error .badNumber
  else
    match Text.float? text with
    | some x => if x == 1.0 / 0.0 then .error .badNumber else .ok (.number (.float x))
    | none => .error .badNumber

/-- Reads a number after its sign. -/
def readMagnitude (sign : List Char) (cs : List Char) : Reading (Json × List Char) :=
  let special (rest : List Char) : Reading (Json × List Char) :=
    match Text.float? (sign ++ cs.take 3) with
    | some x => .ok (.number (.float x), rest)
    | none => .error .badNumber
  match cs with
  | 'i' :: 'n' :: 'f' :: rest => special rest
  | 'n' :: 'a' :: 'n' :: rest => special rest
  | cs => do
    let (whole, rest) ← readWhole cs
    let (fraction, rest) ← readFraction rest
    let (exponent, rest) ← readExponent rest
    return (← decimal sign whole (fraction ++ exponent), rest)

/-- Reads a number. -/
def readNumber : List Char → Reading (Json × List Char)
  | '0' :: 'x' :: cs => readBased 16 cs
  | '0' :: 'o' :: cs => readBased 8 cs
  | '0' :: 'b' :: cs => readBased 2 cs
  | '+' :: cs => readMagnitude ['+'] cs
  | '-' :: cs => readMagnitude ['-'] cs
  | cs => readMagnitude [] cs

/-! ## Dates and times -/

/-- Reads a number of a fixed count of digits between bounds. -/
def readField (count low high : Nat) (cs : List Char) : Reading (Nat × List Char) :=
  let digits := cs.take count
  match Text.natural? 10 digits with
  | some n =>
    if digits.length == count && low ≤ n && n ≤ high then .ok (n, cs.drop count)
    else .error .badDate
  | none => .error .badDate

/-- Whether a year has a leap day. -/
def isLeapYear (year : Nat) : Bool := year % 4 == 0 && (year % 100 != 0 || year % 400 == 0)

/-- How many days a month has. -/
def daysIn (year month : Nat) : Nat :=
  if month == 2 then (if isLeapYear year then 29 else 28)
  else if [4, 6, 9, 11].contains month then 30
  else 31

/-- A number in a fixed count of digits. -/
def padded (count n : Nat) : List Char :=
  let digits := (Nat.repr n).toList
  List.replicate (count - digits.length) '0' ++ digits

/-- Reads a date. -/
def readDate (cs : List Char) : Reading (List Char × List Char) := do
  let (year, cs) ← readField 4 0 9999 cs
  let (month, cs) ← readField 2 1 12 (← expect '-' cs)
  let (day, cs) ← readField 2 1 (daysIn year month) (← expect '-' cs)
  return (padded 4 year ++ '-' :: padded 2 month ++ '-' :: padded 2 day, cs)

/-- How many digits of the fraction of a second count. -/
def fractionDigits : Nat := 9

/-- Reads the fraction of a second, if there is one. -/
def readSecondFraction : List Char → Reading (List Char × List Char)
  | '.' :: cs =>
    let (digits, rest) := cs.span Char.isDigit
    if digits.isEmpty then .error .badDate
    else
      match ((digits.take fractionDigits).reverse.dropWhile (· == '0')).reverse with
      | [] => .ok ([], rest)
      | digits => .ok ('.' :: digits, rest)
  | cs => .ok ([], cs)

/-- Reads a time of day. -/
def readTime (cs : List Char) : Reading (List Char × List Char) := do
  let (hour, cs) ← readField 2 0 23 cs
  let (minute, cs) ← readField 2 0 59 (← expect ':' cs)
  let (second, cs) ← readField 2 0 60 (← expect ':' cs)
  let (fraction, cs) ← readSecondFraction cs
  return (padded 2 hour ++ ':' :: padded 2 minute ++ ':' :: padded 2 second ++ fraction, cs)

/-- Reads the offset of a time of day, if there is one. -/
def readOffset (cs : List Char) : Reading (List Char × List Char) :=
  let signed (sign : Char) (cs : List Char) : Reading (List Char × List Char) := do
    let (hour, cs) ← readField 2 0 23 cs
    let (minute, cs) ← readField 2 0 59 (← expect ':' cs)
    let sign := if hour == 0 && minute == 0 then '+' else sign
    return (sign :: padded 2 hour ++ ':' :: padded 2 minute, cs)
  match cs with
  | 'Z' :: cs => .ok (['Z'], cs)
  | 'z' :: cs => .ok (['Z'], cs)
  | '+' :: cs => signed '+' cs
  | '-' :: cs => signed '-' cs
  | cs => .ok ([], cs)

/-- Whether a text begins with a count of digits and a character. -/
def beginsWith (count : Nat) (mark : Char) (cs : List Char) : Bool :=
  (cs.takeWhile Char.isDigit).length == count && cs[count]? == some mark

/-- Whether a text begins with a date. -/
def isDate (cs : List Char) : Bool := beginsWith 4 '-' cs

/-- Whether a text begins with a time of day. -/
def isTime (cs : List Char) : Bool := beginsWith 2 ':' cs

/-- Reads a date, with a time of day and its offset if there are any. -/
def readMoment (cs : List Char) : Reading (List Char × List Char) := do
  let (date, cs) ← readDate cs
  match cs with
  | mark :: rest =>
    if (mark == 'T' || mark == 't' || mark == ' ') && isTime rest then do
      let (time, cs) ← readTime rest
      let (offset, cs) ← readOffset cs
      return (date ++ 'T' :: time ++ offset, cs)
    else return (date, cs)
  | [] => return (date, [])

/-- Reads a number, a date or a time. -/
def readScalar (cs : List Char) : Reading (Json × List Char) :=
  let asText : List Char × List Char → Json × List Char :=
    fun (text, rest) => (.string (String.ofList text), rest)
  if isDate cs then (readMoment cs).map asText
  else if isTime cs then (readTime cs).map asText
  else readNumber cs

end SqlAlgebra.Toml
