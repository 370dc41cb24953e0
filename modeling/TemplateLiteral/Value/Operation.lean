import TemplateLiteral.Expr.Operator
import TemplateLiteral.Value.Basic

/-!
# Operations on values

What the operators compute. None of them fails: each converts its operands to what it works
on, and what cannot be converted to a number is not a number.

## Main definitions

* `Value.strictEquals`, `Value.looseEquals?`, `Value.looseEquals`: the two equalities
* `Value.order?`: which of two values comes first
* `UnaryOperator.apply`, `BinaryOperator.apply`: the operators
* `BinaryOperator.decides`: the left operand decides alone
-/

namespace TemplateLiteral

namespace Value

/-! ## Equality -/

/-- The kinds of values. -/
inductive Kind where
  | undefined
  | null
  | boolean
  | number
  | string
  | array
  | object
deriving DecidableEq, Repr

/-- The kind of a value. -/
def kind : Value → Kind
  | .undefined => .undefined
  | .null => .null
  | .boolean _ => .boolean
  | .number _ => .number
  | .string _ => .string
  | .array .. => .array
  | .object .. => .object

/-- The two are of the same kind and equal; arrays and objects only with themselves. -/
def strictEquals : Value → Value → Bool
  | .undefined, .undefined => true
  | .null, .null => true
  | .boolean a, .boolean b => a = b
  | .number a, .number b => a == b
  | .string a, .string b => a = b
  | .array _ p, .array _ q => p = q
  | .object _ p, .object _ q => p = q
  | _, _ => false

/-- The comparison of two values by the first rule that fits them. The rule answers, or it
converts one of the two and the comparison begins anew. There is no answer if the comparison
would have to begin more than `room` times. -/
def looseEquals? (room : Nat) (a b : Value) : Option Bool :=
  match room with
  | 0 => none
  | room + 1 =>
    if a.kind = b.kind then some (a.strictEquals b)
    else match a, b with
      -- What is nothing equals only what is nothing.
      | .undefined, other | .null, other | other, .undefined | other, .null =>
        some other.isNullish
      | .number x, .string s | .string s, .number x => some (x == (Value.string s).toNumber)
      | .boolean truth, other => looseEquals? room (.number (Value.boolean truth).toNumber) other
      | other, .boolean truth => looseEquals? room other (.number (Value.boolean truth).toNumber)
      | .array .., .number _ | .array .., .string _
      | .object .., .number _ | .object .., .string _ => looseEquals? room (.string a.text) b
      | .number _, .array .. | .number _, .object ..
      | .string _, .array .. | .string _, .object .. => looseEquals? room a (.string b.text)
      -- An array and an object.
      | _, _ => some false

/-- The two are equal after conversion. A comparison begins three times at most, since a
boolean may be converted, and then an array or an object to be compared with its number. -/
def looseEquals (a b : Value) : Bool :=
  (looseEquals? 3 a b).getD false

/-! ## Order -/

/-- The order of two doubles, which is none if one is not a number. -/
def orderNumbers? (x y : Float) : Option Ordering :=
  if x < y then some .lt
  else if y < x then some .gt
  else if x == y then some .eq
  else none

/-- The order of two values: that of their units if both are texts, and else that of their
numbers. -/
def order? (a b : Value) : Option Ordering :=
  match a.toPrimitive, b.toPrimitive with
  | .string s, .string t => some (Text.compareUnits (Text.units s.toList) (Text.units t.toList))
  | a, b => orderNumbers? a.toNumber b.toNumber

/-! ## Sum -/

/-- The texts joined if one of the two is a text, and else the sum. -/
def add (a b : Value) : Value :=
  match a.toPrimitive, b.toPrimitive with
  | .string s, b => .string (s ++ b.text)
  | a, .string t => .string (a.text ++ t)
  | a, b => .number (a.toNumber + b.toNumber)

end Value

/-! ## Operators -/

/-- What an operator makes of its operand. -/
def UnaryOperator.apply : UnaryOperator → Value → Value
  | .not, v => .boolean (!v.isTruthy)
  | .negate, v => .number (-v.toNumber)
  | .plus, v => .number v.toNumber
  | .typeof, v => .string v.typeName

namespace BinaryOperator

/-- The value of the left operand is the result, whatever the right one may be. -/
def decides : BinaryOperator → Value → Bool
  | .and, left => !left.isTruthy
  | .or, left => left.isTruthy
  | .nullish, left => !left.isNullish
  | _, _ => false

/-- What an operator makes of its operands. -/
def apply : BinaryOperator → Value → Value → Value
  | .add, a, b => a.add b
  | .subtract, a, b => .number (a.toNumber - b.toNumber)
  | .multiply, a, b => .number (a.toNumber * b.toNumber)
  | .divide, a, b => .number (a.toNumber / b.toNumber)
  | .remainder, a, b => .number (Number.remainder a.toNumber b.toNumber)
  | .greater, a, b => .boolean (a.order? b = some .gt)
  | .less, a, b => .boolean (a.order? b = some .lt)
  | .greaterOrEqual, a, b => .boolean (a.order? b = some .gt || a.order? b = some .eq)
  | .lessOrEqual, a, b => .boolean (a.order? b = some .lt || a.order? b = some .eq)
  | .equal, a, b => .boolean (a.looseEquals b)
  | .notEqual, a, b => .boolean (!a.looseEquals b)
  | .strictEqual, a, b => .boolean (a.strictEquals b)
  | .strictNotEqual, a, b => .boolean (!a.strictEquals b)
  | .and, a, b => if a.isTruthy then b else a
  | .or, a, b => if a.isTruthy then a else b
  | .nullish, a, b => if a.isNullish then b else a

end BinaryOperator

end TemplateLiteral
