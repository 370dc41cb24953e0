/-!
# Operators

The operators of expressions, how tightly they bind, and how they are written.

## Main definitions

* `BinaryOperator`, `BinaryOperator.precedence`, `BinaryOperator.symbol`
* `UnaryOperator`
-/

namespace TemplateLiteral

/-- An operator between two operands. -/
inductive BinaryOperator where
  | add
  | subtract
  | multiply
  | divide
  | remainder
  | greater
  | less
  | greaterOrEqual
  | lessOrEqual
  | equal
  | notEqual
  | strictEqual
  | strictNotEqual
  | and
  | or
  | nullish
deriving DecidableEq, Repr

/-- An operator before its operand. -/
inductive UnaryOperator where
  | not
  | negate
  | plus
  | typeof
deriving DecidableEq, Repr

namespace BinaryOperator

/-- How tightly the operator binds, from 1 to 7. -/
def precedence : BinaryOperator → Nat
  | .nullish => 1
  | .or => 2
  | .and => 3
  | .equal | .notEqual | .strictEqual | .strictNotEqual => 4
  | .greater | .less | .greaterOrEqual | .lessOrEqual => 5
  | .add | .subtract => 6
  | .multiply | .divide | .remainder => 7

/-- The operator combines truth values. -/
def isLogical : BinaryOperator → Bool
  | .and | .or => true
  | _ => false

/-- The two operators may not stand side by side without parentheses: `??` with `&&` or `||`. -/
def clashes (a b : BinaryOperator) : Bool :=
  (a = .nullish && b.isLogical) || (a.isLogical && b = .nullish)

/-- How the operator is written. -/
def symbol : BinaryOperator → String
  | .add => "+"
  | .subtract => "-"
  | .multiply => "*"
  | .divide => "/"
  | .remainder => "%"
  | .greater => ">"
  | .less => "<"
  | .greaterOrEqual => ">="
  | .lessOrEqual => "<="
  | .equal => "=="
  | .notEqual => "!="
  | .strictEqual => "==="
  | .strictNotEqual => "!=="
  | .and => "&&"
  | .or => "||"
  | .nullish => "??"

end BinaryOperator

end TemplateLiteral
