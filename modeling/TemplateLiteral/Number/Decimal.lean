import TemplateLiteral.Number.Digits

/-!
# Decimal numerals

A decimal is a coefficient with a power of ten. Its double is the nearest one, an exact tie
going to the even neighbour, and infinity from half a step above the largest finite double.

A decimal numeral is a run of digits with at most one point and at least one digit, and then,
perhaps, `e` with a signed power of ten. `1.`, `.5` and `1.e5` are numerals; `.`, `1e` and
`1e+` are none.

## Main definitions

* `Decimal`, `Decimal.toFloat`
* `Decimal.ofNumeral?`: reading a numeral without a sign
* `readNumeral?`: the double of a numeral that may have a sign
-/

namespace TemplateLiteral.Number

/-- The number `coefficient * 10 ^ exponent`. -/
structure Decimal where
  /-- The digits, read as one number. -/
  coefficient : Nat
  /-- The power of ten. -/
  exponent : Int
deriving DecidableEq, Repr

namespace Decimal

/-- The double nearest to a decimal. -/
def toFloat (d : Decimal) : Float :=
  .ofModel (.ofScientific d.coefficient d.exponent)

/-! ## Reading numerals -/

/-- A power of ten, which is one or more digits after an optional sign. -/
def readPower? : List Char → Option Int
  | '-' :: digits => (magnitude? digits).map (-·)
  | '+' :: digits => magnitude? digits
  | digits => magnitude? digits
where
  /-- The number denoted by one or more digits and nothing else. -/
  magnitude? (digits : List Char) : Option Int :=
    if digits.isEmpty || !digits.all (isDigitOf 10) then none else some (ofDigits 10 digits)

/-- What follows the digits of a numeral: nothing, or `e` and a power of ten. -/
def readExponent? : List Char → Option Int
  | [] => some 0
  | c :: power => if c = 'e' ∨ c = 'E' then readPower? power else none

/-- The digits after a point, if there is a point, and what follows them. -/
def splitFraction : List Char → List Char × List Char
  | '.' :: rest => (rest.takeWhile (isDigitOf 10), rest.dropWhile (isDigitOf 10))
  | rest => ([], rest)

/-- The decimal that a numeral without a sign denotes. -/
def ofNumeral? (text : List Char) : Option Decimal :=
  let whole := text.takeWhile (isDigitOf 10)
  let (fraction, rest) := splitFraction (text.dropWhile (isDigitOf 10))
  if whole.isEmpty && fraction.isEmpty then
    none
  else
    (readExponent? rest).map fun power =>
      ⟨ofDigits 10 (whole ++ fraction), power - fraction.length⟩

end Decimal

/-- The double that a numeral denotes; a sign may stand before it. -/
def readNumeral? : List Char → Option Float
  | '-' :: text => (Decimal.ofNumeral? text).map fun d => -d.toFloat
  | '+' :: text => (Decimal.ofNumeral? text).map Decimal.toFloat
  | text => (Decimal.ofNumeral? text).map Decimal.toFloat

end TemplateLiteral.Number
