import TemplateLiteral.Expr.Operator
import TemplateLiteral.Text.Region

/-!
# Expressions

The expression inside a marker as a tree. Every node knows the region of the text that it was
read from, and a property that has a fixed name knows that of the name as well. Parentheses are
nodes of their own, since they end a chain of property accesses and keep operators apart that may
not stand side by side.

## Main definitions

* `Literal`, `Expr`
* `Expr.region`: the region of a node
* `Expr.operator?`: the operator at the top of an expression without parentheses
* `Expr.ungroup`: an expression without the parentheses around it
-/

namespace TemplateLiteral

/-- A value written in an expression. -/
inductive Literal where
  | null
  | boolean (truth : Bool)
  | number (value : Float)
  | string (text : String)
deriving DecidableEq

/-- An expression. -/
inductive Expr where
  /-- A value written out. -/
  | literal (value : Literal) (region : Region)
  /-- A name that is looked up when the template is rendered. -/
  | name (name : String) (region : Region)
  /-- A property with a fixed name, which is written at a place of its own; an optional one of
  nothing is undefined. -/
  | member (receiver : Expr) (name : String) (place : Region) (optional : Bool) (region : Region)
  /-- A property whose name is computed. -/
  | index (receiver : Expr) (index : Expr) (optional : Bool) (region : Region)
  /-- An operator before its operand. -/
  | unary (operator : UnaryOperator) (operand : Expr) (region : Region)
  /-- An operator between two operands. -/
  | binary (operator : BinaryOperator) (left right : Expr) (region : Region)
  /-- A choice between two expressions. -/
  | conditional (test yes no : Expr) (region : Region)
  /-- An expression in parentheses. -/
  | group (inner : Expr) (region : Region)
deriving DecidableEq

namespace Expr

/-- The region that an expression was read from. -/
def region : Expr → Region
  | .literal _ r | .name _ r | .member _ _ _ _ r | .index _ _ _ r | .unary _ _ r
  | .binary _ _ _ r | .conditional _ _ _ r | .group _ r => r

/-- The operator at the top of an expression that is not in parentheses. -/
def operator? : Expr → Option BinaryOperator
  | .binary operator _ _ _ => some operator
  | _ => none

/-- The expression without the parentheses around it. -/
def ungroup : Expr → Expr
  | .group inner _ => inner.ungroup
  | e => e

/-- The operator may not have the expression as an operand without parentheses. -/
def clashesWith (operand : Expr) (operator : BinaryOperator) : Bool :=
  match operand.operator? with
  | some inner => operator.clashes inner
  | none => false

end Expr

end TemplateLiteral
