/-!
# Digits

Digits of a numeral in a radix from 2 to 36, and the natural number that a list of them denotes.

## Main definitions

* `Number.digitValue?`: the value of a character as a digit
* `Number.ofDigits`: the number that digits denote
* `Number.toDigits`: the decimal digits of a number
-/

namespace TemplateLiteral.Number

/-- The value of a digit in the given radix; letters count on from ten, in either case. -/
def digitValue? (radix : Nat) (c : Char) : Option Nat :=
  let value? :=
    if '0' ≤ c ∧ c ≤ '9' then some (c.toNat - '0'.toNat)
    else if 'a' ≤ c ∧ c ≤ 'z' then some (c.toNat - 'a'.toNat + 10)
    else if 'A' ≤ c ∧ c ≤ 'Z' then some (c.toNat - 'A'.toNat + 10)
    else none
  value?.filter (· < radix)

/-- The character is a digit of the given radix. -/
def isDigitOf (radix : Nat) (c : Char) : Bool :=
  (digitValue? radix c).isSome

/-- The number that a list of digits denotes; a character that is no digit counts as zero. -/
def ofDigits (radix : Nat) (digits : List Char) : Nat :=
  digits.foldl (fun n c => n * radix + (digitValue? radix c).getD 0) 0

/-- The decimal digits of a number, without leading zeros. -/
def toDigits (n : Nat) : List Char :=
  Nat.toDigits 10 n

end TemplateLiteral.Number
