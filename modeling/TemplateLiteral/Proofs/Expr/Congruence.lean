import TemplateLiteral.Proofs.Expr.Evaluation

/-!
# Expressions side by side

Two expressions that are put together in the same way, each evaluated in a scope of its own, take
the same steps as long as their parts have values that no test and no operator tells apart. So what
relates the values of the parts relates the values of the wholes, and what is left to compare are
the names that are looked up and the properties that are read.

## Main definitions

* `Value.Respected`: a relation of values that tests and operators respect

## Main results

* `Value.respected_eq`: equal values are not told apart
* `Scope.chain_member_together`, `Scope.chain_index_together`: chains side by side
* `Scope.apply_together`, `Scope.chain_binary_together`, `Scope.chain_conditional_together`,
  `Scope.chain_group_together`: what is no chain
* `Scope.evaluate_together`: values side by side
-/

namespace TemplateLiteral

/-- Tests and operators respect a relation of values: they make no difference between values that
are related, and make related values of them. -/
structure Value.Respected (R : Value → Value → Prop) : Prop where
  undefined : R .undefined .undefined
  isNullish_eq {v w : Value} : R v w → v.isNullish = w.isNullish
  isTruthy_eq {v w : Value} : R v w → v.isTruthy = w.isTruthy
  text_eq {v w : Value} : R v w → v.text = w.text
  decides_eq {v w : Value} (op : BinaryOperator) : R v w → op.decides v = op.decides w
  unary {v w : Value} (op : UnaryOperator) : R v w → R (op.apply v) (op.apply w)
  binary {v w v' w' : Value} (op : BinaryOperator) :
    R v w → R v' w' → R (op.apply v v') (op.apply w w')

theorem Value.respected_eq : Respected Eq where
  undefined := rfl
  isNullish_eq h := h ▸ rfl
  isTruthy_eq h := h ▸ rfl
  text_eq h := h ▸ rfl
  decides_eq _ h := h ▸ rfl
  unary op h := congrArg op.apply h
  binary op h h' := congrArg₂ op.apply h h'

namespace Scope

variable {q : EvalFault → EvalFault → Prop} {R : Value → Value → Prop} (hR : Value.Respected R)
  {scope scope' : Scope} {e e' receiver receiver' : Expr} {r r' : Region}

include hR

theorem getD_related {v w : Option Value} (h : Option.Rel R v w) :
    R (v.getD .undefined) (w.getD .undefined) := by
  cases h with
  | some h => exact h
  | none => exact hR.undefined

/-! ## Chains -/

theorem chain_member_together {x : String} {place place' : Region} (optional : Bool)
    (h : Together q (Option.Rel R) (scope.chain receiver) (scope'.chain receiver'))
    (hread : ∀ v w, R v w → Together q R (read v x r) (read w x r')) :
    Together q (Option.Rel R) (scope.chain (.member receiver x place optional r))
      (scope'.chain (.member receiver' x place' optional r')) := by
  refine h.bind fun v w hvw => ?_
  cases hvw with
  | none => exact .ok .none
  | some hvw =>
    dsimp only
    rw [hR.isNullish_eq hvw]
    split
    · exact .ok .none
    · exact (hread _ _ hvw).bind fun _ _ hproperty => .ok (.some hproperty)

theorem chain_index_together {key key' : Expr} (optional : Bool)
    (h : Together q (Option.Rel R) (scope.chain receiver) (scope'.chain receiver'))
    (hkey : Together q (Option.Rel R) (scope.chain key) (scope'.chain key'))
    (hread : ∀ x v w, R v w → Together q R (read v x r) (read w x r')) :
    Together q (Option.Rel R) (scope.chain (.index receiver key optional r))
      (scope'.chain (.index receiver' key' optional r')) := by
  refine h.bind fun v w hvw => ?_
  cases hvw with
  | none => exact .ok .none
  | some hvw =>
    dsimp only
    rw [hR.isNullish_eq hvw]
    split
    · exact .ok .none
    · refine hkey.bind fun k l hkl => ?_
      rw [hR.text_eq (getD_related hR hkl)]
      exact (hread _ _ _ hvw).bind fun _ _ hproperty => .ok (.some hproperty)

/-! ## What is no chain -/

/-- An operator is applied to the values of its operands. -/
theorem apply_together (op : UnaryOperator) {x : Except EvalFault (Option Value)}
    {y : Except EvalFault (Option Value)} (h : Together q (Option.Rel R) x y) :
    Together q (Option.Rel R) (do return some (op.apply ((← x).getD .undefined)))
      (do return some (op.apply ((← y).getD .undefined))) :=
  h.bind fun _ _ hvw => .ok (.some (hR.unary op (getD_related hR hvw)))

theorem chain_binary_together (op : BinaryOperator) {left left' right right' : Expr}
    (hleft : Together q (Option.Rel R) (scope.chain left) (scope'.chain left'))
    (hright : Together q (Option.Rel R) (scope.chain right) (scope'.chain right')) :
    Together q (Option.Rel R) (scope.chain (.binary op left right r))
      (scope'.chain (.binary op left' right' r')) := by
  refine hleft.bind fun v w hvw => ?_
  have hrelated := getD_related hR hvw
  dsimp only
  rw [hR.decides_eq op hrelated]
  split
  · exact .ok (.some hrelated)
  · refine hright.bind fun v' w' hvw' => ?_
    exact .ok (.some (hR.binary op hrelated (getD_related hR hvw')))

theorem chain_conditional_together {test test' yes yes' no no' : Expr}
    (htest : Together q (Option.Rel R) (scope.chain test) (scope'.chain test'))
    (hyes : Together q (Option.Rel R) (scope.chain yes) (scope'.chain yes'))
    (hno : Together q (Option.Rel R) (scope.chain no) (scope'.chain no')) :
    Together q (Option.Rel R) (scope.chain (.conditional test yes no r))
      (scope'.chain (.conditional test' yes' no' r')) := by
  refine htest.bind fun v w hvw => ?_
  dsimp only
  rw [hR.isTruthy_eq (getD_related hR hvw)]
  split
  · exact hyes.bind fun _ _ hvw' => .ok (.some (getD_related hR hvw'))
  · exact hno.bind fun _ _ hvw' => .ok (.some (getD_related hR hvw'))

theorem chain_group_together (h : Together q (Option.Rel R) (scope.chain e) (scope'.chain e')) :
    Together q (Option.Rel R) (scope.chain (.group e r)) (scope'.chain (.group e' r')) :=
  h.bind fun _ _ hvw => .ok (.some (getD_related hR hvw))

/-! ## Values -/

theorem evaluate_together (h : Together q (Option.Rel R) (scope.chain e) (scope'.chain e')) :
    Together q R (scope.evaluate e) (scope'.evaluate e') :=
  h.bind fun _ _ hvw => .ok (getD_related hR hvw)

end Scope

end TemplateLiteral
