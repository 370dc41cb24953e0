import TemplateLiteral.Proofs.Expr.Relocation

/-!
# Values of expressions

An expression may have no value of its own in one case only: it is a chain, and the chain is cut
short. Whatever else an expression is, it goes on with its value, and the value is made from the
values of the operands. So most of what holds of values is proved from equations between values, and
the signal of a chain that is cut short is looked at in chains only.

## Main definitions

* `Expr.isLink`: chains, with a link at their end

## Main results

* `Scope.chain_eq_of_isLink_eq_false`: only a chain is cut short
* `Scope.chain_index`: the one place where a link takes a value
* `Scope.evaluate_group`, `Scope.evaluate_unary`, `Scope.evaluate_binary`,
  `Scope.evaluate_conditional`: the values of what is no chain
-/

namespace TemplateLiteral

/-- The expression is a chain, with a link at its end. -/
def Expr.isLink : Expr → Bool
  | .member .. | .index .. => true
  | _ => false

namespace Scope

variable {scope : Scope} {e : Expr}

/-! ## What is cut short -/

/-- Only a chain is cut short. -/
theorem isSome_of_chain_eq_ok {found : Option Value} (h : e.isLink = false)
    (hfound : scope.chain e = .ok found) : found.isSome := by
  -- No induction is needed: whatever its operands come to, each construct ends with a value.
  cases e with
  | member | index => cases h
  | literal =>
    cases hfound
    rfl
  | name x r =>
    simp only [chain] at hfound
    split at hfound <;> cases hfound
    rfl
  | unary op operand r =>
    unfold chain at hfound
    split at hfound
    · cases hfound
      rfl
    · obtain ⟨_, -, ⟨⟩⟩ := bind_eq_ok_iff.1 hfound
      rfl
  | binary op left right r =>
    obtain ⟨_, -, hfound⟩ := bind_eq_ok_iff.1 hfound
    dsimp only at hfound
    split at hfound
    · cases hfound
      rfl
    · obtain ⟨_, -, ⟨⟩⟩ := bind_eq_ok_iff.1 hfound
      rfl
  | conditional test yes no r =>
    obtain ⟨_, -, hfound⟩ := bind_eq_ok_iff.1 hfound
    dsimp only at hfound
    split at hfound <;> obtain ⟨_, -, ⟨⟩⟩ := bind_eq_ok_iff.1 hfound <;> rfl
  | group inner r =>
    obtain ⟨_, -, ⟨⟩⟩ := bind_eq_ok_iff.1 hfound
    rfl

/-- What is no chain goes on with its value. -/
theorem chain_eq_of_isLink_eq_false (h : e.isLink = false) :
    scope.chain e = do return some (← scope.evaluate e) := by
  rw [evaluate]
  cases hfound : scope.chain e with
  | error fault => rfl
  | ok found =>
    obtain ⟨v, rfl⟩ := Option.isSome_iff_exists.1 (isSome_of_chain_eq_ok h hfound)
    rfl

/-- The name of a property is the text of the value of its expression. -/
theorem chain_index (receiver key : Expr) (optional : Bool) (r : Region) :
    scope.chain (.index receiver key optional r) = (do
      match ← scope.chain receiver with
      | none => return none
      | some v =>
        if optional && v.isNullish then return none
        else
          let k ← scope.evaluate key
          return some (← read v k.text r)) := by
  simp only [chain, evaluate]
  cases scope.chain key <;> rfl

/-! ## What is no chain -/

section Values

variable (scope)

/-- Parentheses do not change the value of what stands in them. -/
theorem evaluate_group (inner : Expr) (r : Region) :
    scope.evaluate (.group inner r) = scope.evaluate inner := by
  rw [evaluate, chain, evaluate]
  cases scope.chain inner <;> rfl

/-- The type of a name is that of its value, and there is one even if the name is not bound. -/
theorem evaluate_typeof_name {operand : Expr} {x : String} {r' : Region}
    (h : operand.ungroup = .name x r') (r : Region) :
    scope.evaluate (.unary .typeof operand r) =
      .ok (UnaryOperator.typeof.apply ((scope.lookup? x).getD .undefined)) := by
  simp only [evaluate, chain, h]
  rfl

theorem evaluate_unary {op : UnaryOperator} {operand : Expr}
    (h : ¬ (op = .typeof ∧ ∃ x r, operand.ungroup = .name x r)) (r : Region) :
    scope.evaluate (.unary op operand r) = do return op.apply (← scope.evaluate operand) := by
  rw [evaluate, chain_unary scope h, evaluate]
  cases scope.chain operand <;> rfl

theorem evaluate_binary (op : BinaryOperator) (left right : Expr) (r : Region) :
    scope.evaluate (.binary op left right r) = do
      let v ← scope.evaluate left
      if op.decides v then return v else return op.apply v (← scope.evaluate right) := by
  rw [evaluate, chain, evaluate]
  cases scope.chain left with
  | error fault => rfl
  | ok found =>
    change (if _ then _ else _ : Except EvalFault (Option Value)) >>= _ = if _ then _ else _
    split
    next => rfl
    next => cases hright : scope.chain right <;> simp only [evaluate, hright] <;> rfl

theorem evaluate_conditional (test yes no : Expr) (r : Region) :
    scope.evaluate (.conditional test yes no r) = (do
      if (← scope.evaluate test).isTruthy then scope.evaluate yes else scope.evaluate no) := by
  rw [evaluate, chain, evaluate]
  cases scope.chain test with
  | error fault => rfl
  | ok found =>
    change (if _ then _ else _ : Except EvalFault (Option Value)) >>= _ = if _ then _ else _
    split
    next => cases hyes : scope.chain yes <;> simp only [evaluate, hyes] <;> rfl
    next => cases hno : scope.chain no <;> simp only [evaluate, hno] <;> rfl

end Values

end Scope

end TemplateLiteral
