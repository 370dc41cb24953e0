import TemplateLiteral.Evaluation
import TemplateLiteral.Proofs.Expr.Completeness
import TemplateLiteral.Proofs.Outcome
import TemplateLiteral.Proofs.Token.Relocation

/-!
# Expressions at another place

An expression is the same wherever it stands, but for its regions. It is read from moved tokens with
its regions moved, and its value does not change; where it has none, the fault is the same at the
moved region.

## Main definitions

* `Expr.relocate`, `EvalFault.relocate`

## Main results

* `Grammar.Derives.relocate`, `Expr.ofTokens_relocate`: reading moved tokens
* `Scope.chain_relocate`, `Scope.evaluate_relocate`: the value of a moved expression
-/

namespace TemplateLiteral

open Grammar

namespace Expr

/-- The expression with all of its regions moved. -/
def relocate (φ : Nat → Nat) : Expr → Expr
  | literal value r => literal value (r.relocate φ)
  | name x r => name x (r.relocate φ)
  | member receiver x place optional r =>
    member (receiver.relocate φ) x (place.relocate φ) optional (r.relocate φ)
  | index receiver key optional r =>
    index (receiver.relocate φ) (key.relocate φ) optional (r.relocate φ)
  | unary op operand r => unary op (operand.relocate φ) (r.relocate φ)
  | binary op left right r => binary op (left.relocate φ) (right.relocate φ) (r.relocate φ)
  | conditional test yes no r =>
    conditional (test.relocate φ) (yes.relocate φ) (no.relocate φ) (r.relocate φ)
  | group inner r => group (inner.relocate φ) (r.relocate φ)

variable (φ : Nat → Nat) (e : Expr)

@[simp] theorem region_relocate : (e.relocate φ).region = e.region.relocate φ := by
  cases e <;> rfl

@[simp] theorem isLogical_relocate : (e.relocate φ).isLogical = e.isLogical := by
  cases e <;> rfl

theorem unmixed_relocate : (e.relocate φ).Unmixed ↔ e.Unmixed := by
  induction e with
  | literal | name => rfl
  | member receiver x place optional r ih => exact ih
  | index receiver key optional r ihReceiver ihKey => exact and_congr ihReceiver ihKey
  | unary op operand r ih => exact ih
  | binary op left right r ihLeft ihRight =>
    simp only [relocate, Unmixed, isLogical_relocate, ihLeft, ihRight]
  | conditional test yes no r ihTest ihYes ihNo =>
    exact and_congr ihTest (and_congr ihYes ihNo)
  | group inner r ih => exact ih

@[simp] theorem operatorCount_relocate : (e.relocate φ).operatorCount = e.operatorCount := by
  induction e with
  | binary op left right r ihLeft => exact congrArg (· + 1) ihLeft
  | _ => rfl

@[simp] theorem linkCount_relocate : (e.relocate φ).linkCount = e.linkCount := by
  induction e with
  | member receiver x place optional r ih => exact congrArg (· + 1) ih
  | index receiver key optional r ih => exact congrArg (· + 1) ih
  | _ => rfl

@[simp] theorem charge_relocate : (e.relocate φ).charge = e.charge := by
  induction e with
  | literal | name => rfl
  | member receiver x place optional r ih => simp only [relocate, charge, linkCount_relocate, ih]
  | index receiver key optional r ihReceiver ihKey =>
    simp only [relocate, charge, linkCount_relocate, ihReceiver, ihKey]
  | unary op operand r ih => exact congrArg (· + 1) ih
  | binary op left right r ihLeft ihRight =>
    simp only [relocate, charge, operatorCount_relocate, ihLeft, ihRight]
  | conditional test yes no r ihTest ihYes ihNo =>
    simp only [relocate, charge, ihTest, ihYes, ihNo]
  | group inner r ih => exact congrArg (· + 1) ih

theorem ungroup_relocate : (e.relocate φ).ungroup = e.ungroup.relocate φ := by
  induction e with
  | group inner r ih => exact ih
  | _ => rfl

end Expr

/-! ## Reading moved tokens -/

section Reading

variable {φ : Nat → Nat}

theorem Grammar.Writes.relocate {t : Token} {value : Literal} (h : Writes t value) :
    Writes (t.relocate φ) value := by
  cases h with
  | null h => exact .null h
  | true h => exact .true h
  | false h => exact .false h
  | number h hread => exact .number h hread
  | string h hdecode => exact .string h hdecode

/-- Moved tokens are a phrase of the same kind, and its tree is moved. -/
theorem Grammar.Derives.relocate (hφ : Monotone φ) {c : Phrase} {ts : List Token} {e : Expr}
    (h : Derives c ts e) : Derives c (ts.map (Token.relocate φ)) (e.relocate φ) := by
  -- The region of a tree covers those of its parts, and a monotone move keeps what is covered.
  induction h with
  | test _ ih => exact .test ih
  | conditional _ hquestion _ hcolon _ ihTest ihYes ihNo =>
    simp only [List.map_append, List.map_cons, Expr.relocate, Region.relocate_cover hφ,
      ← Expr.region_relocate]
    exact .conditional ihTest hquestion ihYes hcolon ihNo
  | tighter _ ih => exact .tighter ih
  | binary _ hsign _ ihLeft ihRight =>
    simp only [List.map_append, List.map_cons, Expr.relocate, Region.relocate_cover hφ,
      ← Expr.region_relocate]
    exact .binary ihLeft hsign ihRight
  | operand _ ih => exact .operand ih
  | unary hsign _ ih =>
    simp only [List.map_cons, Expr.relocate, Region.relocate_cover hφ, ← Expr.region_relocate]
    exact .unary hsign ih
  | chain _ ih => exact .chain ih
  | base _ ih => exact .base ih
  | property _ hperiod hname ih =>
    simp only [List.map_append, List.map_cons, List.map_nil, Expr.relocate,
      Region.relocate_cover hφ, ← Expr.region_relocate]
    exact .property ih hperiod hname
  | optionalProperty _ hperiod hname ih =>
    simp only [List.map_append, List.map_cons, List.map_nil, Expr.relocate,
      Region.relocate_cover hφ, ← Expr.region_relocate]
    exact .optionalProperty ih hperiod hname
  | index _ hopening _ hclosing ih ihIndex =>
    simp only [List.map_append, List.map_cons, List.map_nil, Expr.relocate,
      Region.relocate_cover hφ, ← Expr.region_relocate]
    exact .index ih hopening ihIndex hclosing
  | optionalIndex _ hperiod hopening _ hclosing ih ihIndex =>
    simp only [List.map_append, List.map_cons, List.map_nil, Expr.relocate,
      Region.relocate_cover hφ, ← Expr.region_relocate]
    exact .optionalIndex ih hperiod hopening ihIndex hclosing
  | literal h => exact .literal h.relocate
  | name h => exact .name h
  | group hopening _ hclosing ih =>
    simp only [List.map_append, List.map_cons, List.map_nil, Expr.relocate,
      Region.relocate_cover hφ]
    exact .group hopening ih hclosing

/-- What is read from moved tokens is moved. -/
theorem Expr.ofTokens_relocate (hφ : Monotone φ) {tokens : TokenStream} {e : Expr}
    (h : Expr.ofTokens tokens = .ok e) :
    Expr.ofTokens (tokens.relocate φ) = .ok (e.relocate φ) := by
  obtain ⟨ts, region, rfl, hderives, hunmixed, hnesting⟩ := Expr.ofTokens_eq_ok_iff.1 h
  refine Expr.ofTokens_eq_ok_iff.2 ⟨ts.map (Token.relocate φ), region.relocate φ, ?_,
    hderives.relocate hφ, (Expr.unmixed_relocate φ e).2 hunmixed, ?_⟩
  · rw [TokenStream.relocate_prepend]
    rfl
  · rw [Expr.nesting, Expr.charge_relocate]
    exact hnesting

end Reading

/-! ## The value of a moved expression -/

/-- The fault with its region moved. -/
def EvalFault.relocate (φ : Nat → Nat) (fault : EvalFault) : EvalFault :=
  ⟨fault.cause, fault.region.relocate φ⟩

/-- Two steps fail differently if the first does, and the second does on every value. -/
theorem bind_eq_mapError {ε ε' α β : Type} {g : ε → ε'} {x : Except ε α} {x' : Except ε' α}
    {f : α → Except ε β} {f' : α → Except ε' β} (hx : x' = x.mapError g)
    (hf : ∀ a, f' a = (f a).mapError g) : x' >>= f' = (x >>= f).mapError g := by
  subst hx
  cases x with
  | error e => rfl
  | ok a => exact hf a

namespace Scope

variable (φ : Nat → Nat) (scope : Scope)

attribute [local simp] chain

theorem read_relocate (receiver : Value) (key : String) (region : Region) :
    read receiver key (region.relocate φ) =
      (read receiver key region).mapError (EvalFault.relocate φ) := by
  unfold read
  split <;> rfl

/-- An operator before an operand is applied to its value, but for the type of a name. -/
theorem chain_unary {op : UnaryOperator} {operand : Expr} {r : Region}
    (h : ¬ (op = .typeof ∧ ∃ x r, operand.ungroup = .name x r)) :
    scope.chain (.unary op operand r) = do
      return some (op.apply ((← scope.chain operand).getD .undefined)) := by
  rw [chain]
  intro x r hop hungroup
  exact h ⟨hop, x, r, hungroup⟩

/-- A moved expression has the same value, or the same fault at the moved region. -/
theorem chain_relocate (e : Expr) :
    scope.chain (e.relocate φ) = (scope.chain e).mapError (EvalFault.relocate φ) := by
  induction e with
  | literal value r => rfl
  | name x r =>
    simp only [Expr.relocate, chain]
    cases scope.lookup? x <;> rfl
  | member receiver x place optional r ih =>
    refine bind_eq_mapError ih fun value => ?_
    cases value with
    | none => rfl
    | some value =>
      dsimp only
      split
      · rfl
      · exact bind_eq_mapError (read_relocate φ value x r) fun _ => rfl
  | index receiver key optional r ihReceiver ihKey =>
    refine bind_eq_mapError ihReceiver fun value => ?_
    cases value with
    | none => rfl
    | some value =>
      dsimp only
      split
      · rfl
      · refine bind_eq_mapError ihKey fun found => ?_
        exact bind_eq_mapError (read_relocate φ value _ r) fun _ => rfl
  | unary op operand r ih =>
    -- The type of a name is asked for without evaluating the name, so it is a case of its own.
    by_cases hname : op = .typeof ∧ ∃ x r, operand.ungroup = .name x r
    · obtain ⟨rfl, x, r, hungroup⟩ := hname
      simp only [Expr.relocate, chain, Expr.ungroup_relocate, hungroup]
      rfl
    · have hmoved : ¬ (op = .typeof ∧ ∃ x r, (operand.relocate φ).ungroup = .name x r) := by
        intro h
        obtain ⟨hop, x, r', hungroup⟩ := h
        rw [Expr.ungroup_relocate] at hungroup
        cases hoperand : operand.ungroup with
        | name y s => exact hname ⟨hop, y, s, hoperand⟩
        | _ =>
          rw [hoperand] at hungroup
          cases hungroup
      rw [Expr.relocate, chain_unary scope hname, chain_unary scope hmoved]
      exact bind_eq_mapError ih fun _ => rfl
  | binary op left right r ihLeft ihRight =>
    refine bind_eq_mapError ihLeft fun value => ?_
    dsimp only
    split
    · rfl
    · exact bind_eq_mapError ihRight fun _ => rfl
  | conditional test yes no r ihTest ihYes ihNo =>
    refine bind_eq_mapError ihTest fun value => ?_
    dsimp only
    split
    · exact bind_eq_mapError ihYes fun _ => rfl
    · exact bind_eq_mapError ihNo fun _ => rfl
  | group inner r ih => exact bind_eq_mapError ih fun _ => rfl

/-- The value of a moved expression, where a chain that is cut short has none of its own. -/
theorem evaluate_relocate (e : Expr) :
    scope.evaluate (e.relocate φ) = (scope.evaluate e).mapError (EvalFault.relocate φ) :=
  bind_eq_mapError (chain_relocate φ scope e) fun _ => rfl

end Scope

end TemplateLiteral
