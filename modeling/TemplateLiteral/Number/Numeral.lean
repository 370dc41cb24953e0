import TemplateLiteral.Number.Decimal
import TemplateLiteral.Number.Remainder
import TemplateLiteral.Text.Blank

/-!
# Numerals

The numerals of expressions, which begin with a digit or with a point and a digit, and the
numbers that texts are read as. A numeral after `0x` is in radix sixteen. A text may also use
radix eight and two, name infinity and have a sign, and blank characters around it do not count.

## Main definitions

* `Numeral.length`: how far a numeral reaches
* `Numeral.read?`: the double of a numeral in an expression
* `readRadix?`, `readText`: the double that a text is read as
-/

namespace TemplateLiteral.Number

namespace Numeral

/-! ## How far a numeral reaches -/

/-- The number of digits that a text begins with. -/
def digitCount (radix : Nat) (text : List Char) : Nat :=
  (text.takeWhile (isDigitOf radix)).length

/-- How far a point and digits after it reach. -/
def fractionLength : List Char → Nat
  | '.' :: rest => 1 + digitCount 10 rest
  | _ => 0

/-- How far `e` and a power of ten reach. Without a digit there is no power. -/
def exponentLength : List Char → Nat
  | [] => 0
  | e :: rest =>
    let sign := match rest with
      | '+' :: _ | '-' :: _ => 1
      | _ => 0
    let digits := digitCount 10 (rest.drop sign)
    if (e = 'e' ∨ e = 'E') ∧ digits ≠ 0 then 1 + sign + digits else 0

/-- How far a decimal numeral reaches. -/
def decimalLength (text : List Char) : Nat :=
  let whole := digitCount 10 text
  let fraction := fractionLength (text.drop whole)
  whole + fraction + exponentLength (text.drop (whole + fraction))

/-- How far the numeral that a text begins with reaches. -/
def length (text : List Char) : Nat :=
  match text with
  | '0' :: x :: rest =>
    if (x = 'x' ∨ x = 'X') ∧ digitCount 16 rest ≠ 0 then 2 + digitCount 16 rest
    else decimalLength text
  | _ => decimalLength text

/-- The double of the digits behind `0x`, which are taken in one after the other. There is none
if a character is no digit. No digits at all would give zero. -/
def readHexadecimal? (digits : List Char) : Option Float :=
  (digits.map (digitValue? 16)).foldlM
    (fun total digit? => digit?.map fun d => total * ofInt 16 + ofInt d) (ofInt 0)

/-- The double of a numeral in an expression. -/
def read? (text : List Char) : Option Float :=
  match text with
  | '0' :: x :: digits =>
    if x = 'x' ∨ x = 'X' then readHexadecimal? digits else readNumeral? text
  | _ => readNumeral? text

end Numeral

/-! ## Texts as numbers -/

/-- The radix that the second character of a numeral after `0` names. -/
def radixOf? : Char → Option Nat
  | 'x' | 'X' => some 16
  | 'o' | 'O' => some 8
  | 'b' | 'B' => some 2
  | _ => none

/-- The double of digits in a radix, which are taken in one after the other. There is none if
there are no digits, or if a character is no digit. -/
def readRadix? (radix : Nat) (digits : List Char) : Option Float :=
  if digits.isEmpty then none
  else digits.foldlM
    (fun total c => (digitValue? radix c).map fun d => total * ofInt radix + ofInt d) (ofInt 0)

/-- The character may stand in a decimal numeral. -/
def isNumeralChar (c : Char) : Bool :=
  isDigitOf 10 c || c = '.' || c = 'e' || c = 'E' || c = '+' || c = '-'

/-- The double of a decimal numeral that may have a sign, or what is not a number. -/
def readPlain (text : List Char) : Float :=
  if text.all isNumeralChar then (readNumeral? text).getD notANumber else notANumber

/-- The double that a text is read as. Nothing at all reads as zero. -/
def readText (text : List Char) : Float :=
  let text := Text.trim text
  if text.isEmpty then ofInt 0
  else if text = "Infinity".toList ∨ text = "+Infinity".toList then infinity
  else if text = "-Infinity".toList then -infinity
  else match text with
    | '0' :: x :: digits =>
      match radixOf? x with
      | some radix => (readRadix? radix digits).getD notANumber
      | none => readPlain text
    | _ => readPlain text

end TemplateLiteral.Number
