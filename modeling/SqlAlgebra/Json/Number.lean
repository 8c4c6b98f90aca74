import SqlAlgebra.Json.Basic

/-!
# The text of floating-point numbers

A finite floating-point number is written with the fewest decimal digits that read back as
the same number, and of those the nearest. `Decimal.shortest` finds the digits by exact
arithmetic; `Decimal.text` writes them out, with an exponent if the number is very large or
very small.
`Number.ofParts?` reads a number: the digits and the power of ten are rounded one after the
other.
-/

namespace SqlAlgebra

/-- The number `digits · 10 ^ exponent`. -/
structure Decimal where
  digits : Nat
  exponent : Int
deriving DecidableEq, Repr

namespace Decimal

/-- `10 ^ e` as a fraction. -/
def powerOfTen (e : Int) : Nat × Nat :=
  if e < 0 then (1, Nat.pow 10 e.natAbs) else (Nat.pow 10 e.natAbs, 1)

/-- A positive binary number `mantissa · 2 ^ exponent` together with the numbers that round
to it: those between `below` and `above`, in quarters of its last place, the ends included
when the mantissa is even. -/
structure Rounded where
  mantissa : Nat
  exponent : Int
  below : Nat
  above : Nat

namespace Rounded

/-- The quarter of the last place as a fraction. -/
def quarter (r : Rounded) : Nat × Nat :=
  let e := r.exponent - 2
  if e < 0 then (1, Nat.pow 2 e.natAbs) else (Nat.pow 2 e.natAbs, 1)

/-- Whether `d · 10 ^ e` rounds to the number. -/
def contains (r : Rounded) (d : Nat) (e : Int) : Bool :=
  let (qn, qd) := r.quarter
  let (pn, pd) := powerOfTen e
  let point := d * pn * qd
  let low := r.below * qn * pd
  let high := r.above * qn * pd
  if r.mantissa % 2 == 0 then low ≤ point && point ≤ high else low < point && point < high

/-- The number divided by `10 ^ e`, rounded down. -/
def floorAt (r : Rounded) (e : Int) : Nat :=
  let (qn, qd) := r.quarter
  let (pn, pd) := powerOfTen e
  (4 * r.mantissa * qn * pd) / (qd * pn)

/-- Whether the number is at least as near to `d · 10 ^ e` as to `(d + 1) · 10 ^ e`. -/
def nearerBelow (r : Rounded) (d : Nat) (e : Int) : Bool :=
  let (qn, qd) := r.quarter
  let (pn, pd) := powerOfTen e
  2 * (4 * r.mantissa * qn * pd) ≤ (2 * d + 1) * (qd * pn)

/-- The digits at the power `e`, if one of the two neighbours there rounds to the number. -/
def digitsAt? (r : Rounded) (e : Int) : Option Decimal :=
  let d := r.floorAt e
  match d != 0 && r.contains d e, r.contains (d + 1) e with
  | true, true => some (if r.nearerBelow d e then ⟨d, e⟩ else ⟨d + 1, e⟩)
  | true, false => some ⟨d, e⟩
  | false, true => some ⟨d + 1, e⟩
  | false, false => none

/-- The coarsest power of ten, starting at `e` and going down, whose digits suffice. -/
def search (r : Rounded) : Nat → Int → Decimal
  | 0, e => ⟨r.floorAt e, e⟩
  | fuel + 1, e => (r.digitsAt? e).getD (search r fuel (e - 1))

end Rounded

/-- Drops trailing zeros of the digits, at most `fuel` of them. -/
def dropZeros : Nat → Decimal → Decimal
  | 0, d => d
  | fuel + 1, d =>
    if d.digits != 0 && d.digits % 10 == 0 then dropZeros fuel ⟨d.digits / 10, d.exponent + 1⟩
    else d

/-- One more than the greatest fraction of a floating-point number: it has 52 bits. -/
def fractionBound : Nat := 4503599627370496

/-- One more than the greatest biased exponent of a floating-point number: it has 11 bits. -/
def exponentBound : Nat := 2048

/-- The weight of the topmost of 64 bits, which holds the sign. -/
def signWeight : Nat := 9223372036854775808

/-- The binary parts of a finite, non-zero number's magnitude. -/
def roundedOf (x : Float) : Rounded :=
  let bits := x.toBits.toNat
  let biased := (bits / fractionBound) % exponentBound
  let fraction := bits % fractionBound
  let mantissa := if biased == 0 then fraction else fraction + fractionBound
  let exponent : Int := (if biased == 0 then 1 else biased : Nat) - 1075
  let narrow := fraction == 0 && biased > 1
  ⟨mantissa, exponent, if narrow then 4 * mantissa - 1 else 4 * mantissa - 2, 4 * mantissa + 2⟩

/-- The fewest digits that read back as the magnitude of a finite number. -/
def shortest (x : Float) : Decimal :=
  let r := roundedOf x
  if r.mantissa == 0 then ⟨0, 0⟩ else dropZeros 400 (r.search 700 309)

/-- A decimal without an exponent; a whole number keeps a zero after the point. -/
def positional (d : Decimal) : String :=
  let digits := (Nat.repr d.digits).toList
  if 0 ≤ d.exponent then
    String.ofList (digits ++ List.replicate d.exponent.natAbs '0') ++ ".0"
  else
    let places := d.exponent.natAbs
    let padded := List.replicate (places + 1 - digits.length) '0' ++ digits
    let whole := padded.length - places
    String.ofList (padded.take whole ++ '.' :: padded.drop whole)

/-- How many digits stand in front of the point: a non-zero number of magnitude `m` is less
than `10 ^ m` and at least `10 ^ (m - 1)`. -/
def magnitude (d : Decimal) : Int := (Nat.repr d.digits).length + d.exponent

/-- A decimal with an exponent; one digit stands in front of the point. -/
def scientific (d : Decimal) : String :=
  let lead := match (Nat.repr d.digits).toList with
    | first :: second :: rest => first :: '.' :: second :: rest
    | digits => digits
  String.ofList lead ++ "e" ++ (d.magnitude - 1).repr

/-- A decimal as data show it: with an exponent unless it is less than `10 ^ 16` and at least
`10 ^ (-5)`. -/
def text (d : Decimal) : String :=
  if -5 < d.magnitude && d.magnitude ≤ 16 then d.positional else d.scientific

end Decimal

namespace Number

/-- Whether a floating-point number carries a minus sign. -/
def isNegative (x : Float) : Bool := x.toBits.toNat ≥ Decimal.signWeight

/-- The sign of a floating-point number. -/
def signText (x : Float) : String := if isNegative x then "-" else ""

/-- The text of a floating-point number in messages and data. -/
def floatText (x : Float) : String := signText x ++ (Decimal.shortest x).text

/-- The text of a number. -/
def text : Number → String
  | int i => i.repr
  | float x => floatText x

/-- Multiplies by a power of ten, in steps of at most 308; `none` if the result overflows. -/
def scale? : Nat → Float → Int → Option Float
  | 0, _, _ => none
  | fuel + 1, x, e =>
    if e.natAbs ≤ 308 then
      let power := Float.ofScientific 1 false e.natAbs
      if 0 ≤ e then
        let y := x * power
        if y.isInf then none else some y
      else some (x / power)
    else if x == 0.0 then some x
    else if 0 ≤ e then none
    else scale? fuel (x / Float.ofScientific 1 false 308) (e + 308)

/-- The least number too large for 64 bits. -/
def wordBound : Nat := UInt64.size

/-- Reads digits while they fit into 64 bits; counts those left over. -/
def readDigits : List Nat → Nat → Nat → Nat × Nat
  | [], significand, dropped => (significand, dropped)
  | d :: ds, significand, dropped =>
    if dropped == 0 && significand * 10 + d < wordBound then
      readDigits ds (significand * 10 + d) 0
    else readDigits ds significand (dropped + 1)

/-- Reads fractional digits while they fit into 64 bits; counts those read. -/
def readFraction : List Nat → Nat → Nat → Nat × Nat
  | [], significand, count => (significand, count)
  | d :: ds, significand, count =>
    if significand * 10 + d < wordBound then readFraction ds (significand * 10 + d) (count + 1)
    else (significand, count)

/-- The number with the given sign, whole digits, fractional digits and exponent; the last
two are absent from a whole number. `none` if it is too large. -/
def ofParts? (negative : Bool) (whole : List Nat) (fraction : Option (List Nat))
    (exponent : Option Int) : Option Number :=
  let (significand, dropped) := readDigits whole 0 0
  let signed (x : Float) : Number := .float (if negative then -x else x)
  match fraction, exponent, dropped with
  | none, none, 0 =>
    if negative then
      if significand != 0 && significand ≤ Decimal.signWeight then
        some (.int (-(significand : Int)))
      else some (signed (Float.ofNat significand))
    else some (.int significand)
  | _, _, _ =>
    let (significand, places) := readFraction (fraction.getD []) significand 0
    let e := (dropped : Int) - places + exponent.getD 0
    if significand == 0 then some (signed 0.0)
    else if e < -100000 then some (signed 0.0)
    else (scale? 400 (Float.ofNat significand) e).map signed

end Number

end SqlAlgebra
