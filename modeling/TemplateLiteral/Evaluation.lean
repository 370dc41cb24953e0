import TemplateLiteral.Expr.Basic
import TemplateLiteral.Store
import TemplateLiteral.Template.Parameters
import TemplateLiteral.Value.Operation

/-!
# Evaluation

The value of an expression, where names stand for values of a store. Two things can go wrong:
a name is not bound, or a property is read from what is nothing.

An optional link of a chain of properties cuts the chain short if what it reads from is
nothing. The links after it are then not followed, and the chain is undefined as a whole.
Parentheses end a chain, so that links outside them are followed again.

## Main definitions

* `EvalFault`, `EvalFault.diagnostic`
* `Scope`, `Scope.lookup?`: what names stand for
* `Scope.chain`: the value of an expression, or that its chain is cut short
* `Scope.evaluate`: the value of an expression
-/

namespace TemplateLiteral

/-! ## Faults -/

/-- What is wrong with an expression in a scope. -/
inductive EvalFault.Cause where
  /-- The name is not bound. -/
  | unbound (name : String)
  /-- The property is read from what has none. -/
  | noProperties (receiver key : String)
deriving DecidableEq, Repr

/-- Something that is wrong with an expression in a scope, and where. -/
structure EvalFault where
  cause : EvalFault.Cause
  region : Region
deriving DecidableEq, Repr

namespace EvalFault

/-- The reason that is reported for a cause. -/
def Cause.reason : Cause → String
  | .unbound name => name ++ " is not defined"
  | .noProperties receiver key =>
    "cannot read properties of " ++ receiver ++ " (reading '" ++ key ++ "')"

/-- The hint for a cause. -/
def Cause.help (parameters : Parameters) : Cause → Option String
  | .unbound name =>
    match parameters with
    | .each [] => some ("no names are declared, declare `" ++ name ++ "` when compiling")
    | .each names => some
        ("declared names are `" ++ "`, `".intercalate names ++ "`, did you forget to declare `" ++
          name ++ "`?")
    | .whole binding => some
        ("values are bound to `" ++ binding ++ "`, try `" ++ binding ++ "." ++ name ++ "`")
  | .noProperties .. => none

/-- The report of a fault in a template with the given parameters. -/
def diagnostic (fault : EvalFault) (parameters : Parameters) (source : String) : Diagnostic :=
  Diagnostic.pointingAt
    { kind := .reference, reason := fault.cause.reason, help := fault.cause.help parameters }
    source fault.region

end EvalFault

/-! ## Names -/

/-- What names stand for. -/
structure Scope where
  /-- The names that are bound. -/
  parameters : Parameters
  /-- The values that they are bound to. -/
  store : Store

/-- The value of a name that is always bound. -/
def global? : String → Option Value
  | "undefined" => some .undefined
  | "NaN" => some (.number Number.notANumber)
  | "Infinity" => some (.number Number.infinity)
  | _ => none

namespace Scope

/-- The value of a declared name; without a value in the store it is undefined. -/
def declared? (scope : Scope) (name : String) : Option Value :=
  match scope.parameters with
  | .each names =>
    if name ∈ names then some (Value.ofData? [.key name] (scope.store.get? name)) else none
  | .whole binding =>
    if name = binding then some (.object scope.store.fields []) else none

/-- The value of a name: a declared one, or one that is always bound. -/
def lookup? (scope : Scope) (name : String) : Option Value :=
  (scope.declared? name).or (global? name)

/-! ## Expressions -/

/-- The value of something written out. -/
def ofLiteral : Literal → Value
  | .null => .null
  | .boolean truth => .boolean truth
  | .number x => .number x
  | .string text => .string text

/-- The property of a receiver, which must not be nothing. -/
def read (receiver : Value) (key : String) (region : Region) : Except EvalFault Value :=
  if receiver.isNullish then .error ⟨.noProperties receiver.text key, region⟩
  else .ok (receiver.property key)

/-- The value of an expression, or `none` if it is a chain that is cut short. -/
def chain (scope : Scope) : Expr → Except EvalFault (Option Value)
  | .literal value _ => .ok (some (ofLiteral value))
  | .name name region =>
    match scope.lookup? name with
    | some value => .ok (some value)
    | none => .error ⟨.unbound name, region⟩
  | .member receiver name _ optional region => do
    match ← scope.chain receiver with
    | none => return none
    | some value =>
      if optional && value.isNullish then return none
      else return some (← read value name region)
  | .index receiver index optional region => do
    match ← scope.chain receiver with
    | none => return none
    | some value =>
      if optional && value.isNullish then return none
      else
        -- The key comes before the check of the receiver, so that a fault in it wins.
        let key := (← scope.chain index).getD .undefined
        return some (← read value key.text region)
  | .unary operator operand _ =>
    match operator, operand.ungroup with
    -- A name that is not bound has a type all the same.
    | .typeof, .name name _ =>
      .ok (some (operator.apply ((scope.lookup? name).getD .undefined)))
    | _, _ => do
      return some (operator.apply ((← scope.chain operand).getD .undefined))
  | .binary operator left right _ => do
    let left := (← scope.chain left).getD .undefined
    if operator.decides left then return some left
    else
      let right := (← scope.chain right).getD .undefined
      return some (operator.apply left right)
  | .conditional test yes no _ => do
    let test := (← scope.chain test).getD .undefined
    if test.isTruthy then return some ((← scope.chain yes).getD .undefined)
    else return some ((← scope.chain no).getD .undefined)
  | .group inner _ => do
    return some ((← scope.chain inner).getD .undefined)

/-- The value of an expression. -/
def evaluate (scope : Scope) (e : Expr) : Except EvalFault Value := do
  return (← scope.chain e).getD .undefined

end Scope

end TemplateLiteral
