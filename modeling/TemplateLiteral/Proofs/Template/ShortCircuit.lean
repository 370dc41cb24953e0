import Mathlib.Data.List.Forall2
import TemplateLiteral.Proofs.Expr.Evaluation
import TemplateLiteral.Proofs.Template.Qualification

/-!
# Operands that are not evaluated

Three operators look at their left operand and may skip the right one. What they compute from two
values is one of the two, chosen by the same tests, so that the right operand is skipped just where
the left one is the result whatever the right one may be. Nothing is lost but faults of the right
operand, and any other operand may stand in its place, at any depth of an expression.

## Main definitions

* `BinaryOperator.Settles`: the left operand is the result, whatever the right one may be
* `Expr.SwapsIdle`, `Segment.SwapsIdle`: other right operands where the left one settles the result

## Main results

* `BinaryOperator.settles_iff_decides`: where the right operand is skipped, and where it may be
* `Scope.evaluate_binary_of_error`, `Scope.evaluate_binary_of_ok`,
  `Scope.evaluate_binary_of_right_error`: the value of an operator between two operands
* `Scope.chain_swapsIdle`: an expression with other idle operands
* `Template.short_circuit`: all of this, and what is rendered
-/

namespace TemplateLiteral

/-! ## Operators -/

namespace BinaryOperator

/-- The operator is one that may skip its right operand, and the left one is the result whatever the
right one may be. -/
def Settles (op : BinaryOperator) (v : Value) : Prop :=
  op ∈ [and, or, nullish] ∧ ∀ right, op.apply v right = v

/-- The right operand is skipped just where it does not matter. -/
theorem settles_iff_decides {op : BinaryOperator} {v : Value} : op.Settles v ↔ op.decides v := by
  constructor
  · rintro ⟨hop, hresult⟩
    simp only [List.mem_cons, List.not_mem_nil, or_false] at hop
    -- A right operand that the test tells apart from the left one would be the result.
    rcases hop with rfl | rfl | rfl
    · cases h : v.isTruthy with
      | false => rw [decides, h]; rfl
      | true =>
        have hundefined := hresult .undefined
        rw [apply, if_pos h] at hundefined
        rw [← hundefined] at h
        cases h
    · cases h : v.isTruthy with
      | true => rw [decides, h]
      | false =>
        have htrue := hresult (.boolean true)
        rw [apply, if_neg (by simp [h])] at htrue
        rw [← htrue] at h
        cases h
    · cases h : v.isNullish with
      | false => rw [decides, h]; rfl
      | true =>
        have htrue := hresult (.boolean true)
        rw [apply, if_pos h] at htrue
        rw [← htrue] at h
        cases h
  · intro h
    cases op with
    | and => exact ⟨by simp, fun right => if_neg (by simpa [decides] using h)⟩
    | or => exact ⟨by simp, fun right => if_pos h⟩
    | nullish => exact ⟨by simp, fun right => if_neg (by simpa [decides] using h)⟩
    | _ => cases h

end BinaryOperator

/-! ## Expressions -/

/-- The right operands of operators that the left one settles are swapped for others, at any depth.
The regions of names that are looked up and of properties are related by `ρ`. -/
inductive Expr.SwapsIdle (scope : Scope) (ρ : Region → Region → Prop) : Expr → Expr → Prop where
  | literal {value : Literal} {r r' : Region} :
      SwapsIdle scope ρ (.literal value r) (.literal value r')
  | name {x : String} {r r' : Region} : ρ r r' → SwapsIdle scope ρ (.name x r) (.name x r')
  | member {receiver receiver' : Expr} {x : String} {place place' : Region} {optional : Bool}
      {r r' : Region} :
      SwapsIdle scope ρ receiver receiver' → ρ r r' →
      SwapsIdle scope ρ (.member receiver x place optional r)
        (.member receiver' x place' optional r')
  | index {receiver receiver' key key' : Expr} {optional : Bool} {r r' : Region} :
      SwapsIdle scope ρ receiver receiver' → SwapsIdle scope ρ key key' → ρ r r' →
      SwapsIdle scope ρ (.index receiver key optional r) (.index receiver' key' optional r')
  | unary {op : UnaryOperator} {operand operand' : Expr} {r r' : Region} :
      SwapsIdle scope ρ operand operand' →
      SwapsIdle scope ρ (.unary op operand r) (.unary op operand' r')
  | binary {op : BinaryOperator} {left left' right right' : Expr} {r r' : Region} :
      SwapsIdle scope ρ left left' → SwapsIdle scope ρ right right' →
      SwapsIdle scope ρ (.binary op left right r) (.binary op left' right' r')
  /-- The left operand settles the result, and then the right ones may be any two expressions. -/
  | idle {op : BinaryOperator} {left left' right right' : Expr} {r r' : Region} {v : Value} :
      SwapsIdle scope ρ left left' → scope.evaluate left = .ok v → op.Settles v →
      SwapsIdle scope ρ (.binary op left right r) (.binary op left' right' r')
  | conditional {test test' yes yes' no no' : Expr} {r r' : Region} :
      SwapsIdle scope ρ test test' → SwapsIdle scope ρ yes yes' → SwapsIdle scope ρ no no' →
      SwapsIdle scope ρ (.conditional test yes no r) (.conditional test' yes' no' r')
  | group {inner inner' : Expr} {r r' : Region} : SwapsIdle scope ρ inner inner' →
      SwapsIdle scope ρ (.group inner r) (.group inner' r')

theorem Expr.SwapsIdle.ungroup {scope : Scope} {ρ : Region → Region → Prop} {e e' : Expr}
    (h : e.SwapsIdle scope ρ e') : e.ungroup.SwapsIdle scope ρ e'.ungroup := by
  induction h with
  | literal => exact .literal
  | name hr => exact .name hr
  | member h hr _ => exact .member h hr
  | index h h' hr _ _ => exact .index h h' hr
  | unary h _ => exact .unary h
  | binary h h' _ _ => exact .binary h h'
  | idle h hv hsettles _ => exact .idle h hv hsettles
  | conditional h h' h'' _ _ _ => exact .conditional h h' h''
  | group _ ih => exact ih

/-- The faults have the same cause, in regions that are related. -/
def EvalFault.Corresponds (ρ : Region → Region → Prop) (f g : EvalFault) : Prop :=
  f.cause = g.cause ∧ ρ f.region g.region

namespace Scope

section Operands

variable {scope : Scope} {op : BinaryOperator} {left right : Expr} {a b : Value}
  {fault : EvalFault}

/-- A fault of the left operand comes first. -/
theorem evaluate_binary_of_error (h : scope.evaluate left = .error fault) (right : Expr)
    (r : Region) : scope.evaluate (.binary op left right r) = .error fault := by
  rw [evaluate_binary, h]
  rfl

/-- Two operands that have values are computed with, even if the right one is skipped. -/
theorem evaluate_binary_of_ok (ha : scope.evaluate left = .ok a)
    (hb : scope.evaluate right = .ok b) (r : Region) :
    scope.evaluate (.binary op left right r) = .ok (op.apply a b) := by
  rw [evaluate_binary, ha, hb]
  by_cases h : op.decides a
  · rw [(BinaryOperator.settles_iff_decides.2 h).2 b]
    exact if_pos h
  · exact if_neg h

/-- A left operand that settles the result is the result. -/
theorem evaluate_binary_of_settles (ha : scope.evaluate left = .ok a) (h : op.Settles a)
    (right : Expr) (r : Region) : scope.evaluate (.binary op left right r) = .ok a := by
  rw [evaluate_binary, ha]
  exact if_pos (BinaryOperator.settles_iff_decides.1 h)

/-- A fault of the right operand is one of the expression, unless the left one settles the
result. -/
theorem evaluate_binary_of_right_error (ha : scope.evaluate left = .ok a)
    (hfault : scope.evaluate right = .error fault) (h : ¬ op.Settles a) (r : Region) :
    scope.evaluate (.binary op left right r) = .error fault := by
  rw [evaluate_binary, ha, hfault]
  exact if_neg (mt BinaryOperator.settles_iff_decides.2 h)

end Operands

section Swaps

variable {scope : Scope} {ρ : Region → Region → Prop} {e e' : Expr}

theorem read_corresponds (v : Value) (key : String) {r r' : Region} (h : ρ r r') :
    Together (EvalFault.Corresponds ρ) Eq (read v key r) (read v key r') := by
  unfold read
  split
  · exact .error ⟨rfl, h⟩
  · exact .ok rfl

/-- An expression with other idle operands has the same value, or a fault with the same cause in a
region that is related. -/
theorem chain_swapsIdle (h : e.SwapsIdle scope ρ e') :
    Together (EvalFault.Corresponds ρ) (Option.Rel Eq) (scope.chain e) (scope.chain e') := by
  induction h with
  | literal => exact .ok (.some rfl)
  | @name x r r' hr =>
    simp only [chain]
    cases scope.lookup? x with
    | none => exact .error ⟨rfl, hr⟩
    | some v => exact .ok (.some rfl)
  | member _ hr ih =>
    exact chain_member_together Value.respected_eq _ ih
      fun v _ hvw => hvw ▸ read_corresponds v _ hr
  | index _ _ hr ih ihKey =>
    exact chain_index_together Value.respected_eq _ ih ihKey
      fun x v _ hvw => hvw ▸ read_corresponds v x hr
  | @unary op operand operand' r r' hoperand ih =>
    have hungroup := hoperand.ungroup
    by_cases hname : op = .typeof ∧ ∃ x s, operand.ungroup = .name x s
    · -- The type of a name is asked for without evaluating it, and it is the same name.
      obtain ⟨rfl, x, s, heq⟩ := hname
      obtain ⟨s', heq'⟩ : ∃ s', operand'.ungroup = .name x s' := by
        rw [heq] at hungroup
        generalize operand'.ungroup = inner at hungroup
        cases hungroup
        exact ⟨_, rfl⟩
      simp only [chain, heq, heq']
      exact .ok (.some rfl)
    · have hname' : ¬ (op = .typeof ∧ ∃ x s, operand'.ungroup = .name x s) := by
        rintro ⟨rfl, x, s, heq⟩
        rw [heq] at hungroup
        generalize hinner : operand.ungroup = inner at hungroup
        cases hungroup
        exact hname ⟨rfl, x, _, hinner⟩
      rw [chain_unary scope hname, chain_unary scope hname']
      exact apply_together Value.respected_eq op ih
  | @binary op left left' right right' r r' _ _ ihLeft ihRight =>
    exact chain_binary_together Value.respected_eq op ihLeft ihRight
  | @idle op left left' right right' r r' v _ hv hsettles ih =>
    have hvalue := evaluate_together Value.respected_eq ih
    have hv' : scope.evaluate left' = .ok v := by
      rw [hv] at hvalue
      generalize scope.evaluate left' = outcome at hvalue
      cases hvalue with
      | ok hvw => rw [hvw]
    rw [chain_eq_of_isLink_eq_false rfl, chain_eq_of_isLink_eq_false rfl,
      evaluate_binary_of_settles hv hsettles, evaluate_binary_of_settles hv' hsettles]
    exact .ok (.some rfl)
  | conditional _ _ _ ihTest ihYes ihNo =>
    exact chain_conditional_together Value.respected_eq ihTest ihYes ihNo
  | group _ ih => exact chain_group_together Value.respected_eq ih

theorem evaluate_swapsIdle (h : e.SwapsIdle scope ρ e') :
    Together (EvalFault.Corresponds ρ) Eq (scope.evaluate e) (scope.evaluate e') :=
  evaluate_together Value.respected_eq (chain_swapsIdle h)

/-- Where only idle operands differ, the value is the same, or the fault and its region are. -/
theorem evaluate_eq_of_swapsIdle (h : e.SwapsIdle scope Eq e') :
    scope.evaluate e = scope.evaluate e' := by
  have htogether := evaluate_swapsIdle h
  generalize scope.evaluate e = outcome, scope.evaluate e' = outcome' at htogether
  cases htogether with
  | ok h => rw [h]
  | @error f g h =>
    obtain ⟨cause, region⟩ := f
    obtain ⟨rfl, rfl⟩ := h
    rfl

end Swaps

end Scope

/-! ## Templates -/

/-- The segments show the same text, or are markers whose expressions have other idle operands. -/
inductive Segment.SwapsIdle (scope : Scope) : Segment → Segment → Prop where
  | literal {text : List Char} {r r' : Region} :
      SwapsIdle scope (.literal text r) (.literal text r')
  | marker {e e' : Expr} {text text' : List Char} {r r' : Region} :
      e.SwapsIdle scope (fun _ _ => True) e' →
      SwapsIdle scope (.marker e text r) (.marker e' text' r')

theorem Segment.SwapsIdle.text_together {scope : Scope} {s s' : Segment}
    (h : s.SwapsIdle scope s') : Together Scope.SameCause Eq (s.text scope) (s'.text scope) := by
  cases h with
  | literal => exact .ok rfl
  | marker h =>
    have hvalue := (Scope.evaluate_swapsIdle h).imp (fun _ _ => And.left) fun _ _ => id
    exact hvalue.bind fun _ _ hvw => .ok (congrArg (fun v => (Value.text v).toList) hvw)

namespace Template

variable {t t' : Template} {store : Store}

theorem output_swapsIdle (hparameters : t'.parameters = t.parameters)
    (h : List.Forall₂ (Segment.SwapsIdle (t.scope store)) t.segments t'.segments) :
    Together Scope.SameCause Eq (t.output store) (t'.output store) := by
  have hscope : t'.scope store = t.scope store := congrArg (Scope.mk · store) hparameters
  rw [output, output, hscope]
  have htexts := Together.mapM (h.imp fun _ _ => Segment.SwapsIdle.text_together)
  exact htexts.bind fun _ _ heq => .ok (congrArg List.flatten heq)

/-- Faults with the same cause are reported by the same words. -/
theorem render_agrees (hname : t'.name = t.name) (hparameters : t'.parameters = t.parameters)
    (h : Together Scope.SameCause Eq (t.output store) (t'.output store)) :
    Together (Diagnostic.agrees · ·) Eq (t.render store) (t'.render store) := by
  rw [render, render, hname, hparameters]
  generalize t.output store = outcome, t'.output store = outcome' at h
  cases h with
  | ok htext => exact .ok (congrArg String.ofList htext)
  | @error f g hcause =>
    refine .error ?_
    rw [EvalFault.diagnostic, EvalFault.diagnostic, hcause]
    cases t.name <;> simp [Diagnostic.agrees, Diagnostic.inTemplate, Diagnostic.pointingAt]

/-- An operator between two operands fails if the left operand does. If both have values, the result
is computed from them, whether or not the right one is evaluated. If the right operand fails, so
does the expression, unless the left one is the result whatever the right one may be. An expression
in which other right operands of such operators stand has the same value, and a template the same
output, or a report in the same words. -/
theorem short_circuit (scope : Scope) :
    (∀ (op : BinaryOperator) (left right : Expr) (r : Region),
      (∀ fault, scope.evaluate left = .error fault →
        scope.evaluate (.binary op left right r) = .error fault) ∧
      (∀ a b, scope.evaluate left = .ok a → scope.evaluate right = .ok b →
        scope.evaluate (.binary op left right r) = .ok (op.apply a b)) ∧
      ∀ a fault, scope.evaluate left = .ok a → scope.evaluate right = .error fault →
        (¬ op.Settles a → scope.evaluate (.binary op left right r) = .error fault) ∧
        (op.Settles a → scope.evaluate (.binary op left right r) = .ok a)) ∧
    (∀ e e', e.SwapsIdle scope Eq e' → scope.evaluate e = scope.evaluate e') ∧
    ∀ (t t' : Template) (store : Store), scope = t.scope store → t'.name = t.name →
      t'.parameters = t.parameters →
      List.Forall₂ (Segment.SwapsIdle scope) t.segments t'.segments →
      Together (Diagnostic.agrees · ·) Eq (t.render store) (t'.render store) := by
  refine ⟨fun op left right r => ⟨?_, ?_, ?_⟩, fun e e' => Scope.evaluate_eq_of_swapsIdle, ?_⟩
  · exact fun fault h => Scope.evaluate_binary_of_error h right r
  · exact fun a b ha hb => Scope.evaluate_binary_of_ok ha hb r
  · exact fun a fault ha hfault => ⟨fun h => Scope.evaluate_binary_of_right_error ha hfault h r,
      fun h => Scope.evaluate_binary_of_settles ha h right r⟩
  · rintro t t' store rfl hname hparameters h
    exact render_agrees hname hparameters (output_swapsIdle hparameters h)

set_option maxRecDepth 4000 in
/-- A name that is bound and names that are not, on either side of an operator. -/
theorem short_circuit_unbound :
    let store := Store.ofFields [("a", .string "x")]
    let scope : Scope := ⟨.each ["a"], store⟩
    let a : Expr := .name "a" ⟨2, 3⟩
    let b : Expr := .name "b" ⟨7, 8⟩
    let fault : EvalFault := ⟨.unbound "b", ⟨7, 8⟩⟩
    scope.evaluate (.binary .or b a ⟨2, 8⟩) = .error fault ∧
    scope.evaluate (.binary .add a a ⟨2, 8⟩) =
      .ok (BinaryOperator.add.apply (.string "x") (.string "x")) ∧
    scope.evaluate (.binary .and a b ⟨2, 8⟩) = .error fault ∧
    scope.evaluate (.binary .or a b ⟨2, 8⟩) = .ok (.string "x") ∧
    scope.evaluate (.unary .not (.binary .or a b ⟨2, 8⟩) ⟨1, 8⟩) =
      scope.evaluate (.unary .not (.binary .or a a ⟨2, 8⟩) ⟨1, 8⟩) ∧
    ∃ t t', ({} : Engine).destructure.compile "$\x7ba || b\x7d" ["a"] = .ok t ∧
      ({} : Engine).destructure.compile "$\x7ba || c.d\x7d" ["a"] = .ok t' ∧
      Together (Diagnostic.agrees · ·) Eq (t.render store) (t'.render store) := by
  intro store scope a b fault
  obtain ⟨hoperands, hswap, hrender⟩ := short_circuit scope
  have ha : scope.evaluate a = .ok (.string "x") := rfl
  have hb : scope.evaluate b = .error fault := rfl
  have hor : BinaryOperator.or.Settles (.string "x") := BinaryOperator.settles_iff_decides.2 rfl
  have hand : ¬ BinaryOperator.and.Settles (.string "x") :=
    mt BinaryOperator.settles_iff_decides.1 (by decide)
  have hcompile : ({} : Engine).destructure.compile "$\x7ba || b\x7d" ["a"] =
    .ok ⟨"$\x7ba || b\x7d", none, .each ["a"],
      [.marker (.binary .or a b ⟨2, 8⟩) "$\x7ba || b\x7d".toList ⟨0, 9⟩]⟩ := by cbv
  have hcompile' : ∃ e, ({} : Engine).destructure.compile "$\x7ba || c.d\x7d" ["a"] =
    .ok ⟨"$\x7ba || c.d\x7d", none, .each ["a"],
      [.marker (.binary .or a e ⟨2, 10⟩) "$\x7ba || c.d\x7d".toList ⟨0, 11⟩]⟩ := ⟨_, by cbv⟩
  obtain ⟨e, hcompile'⟩ := hcompile'
  refine ⟨(hoperands _ b a _).1 fault hb, (hoperands _ a a _).2.1 _ _ ha ha,
    ((hoperands _ a b _).2.2 _ _ ha hb).1 hand, ((hoperands _ a b _).2.2 _ _ ha hb).2 hor,
    hswap _ _ (.unary (.idle (.name rfl) ha hor)), ?_⟩
  refine ⟨_, _, hcompile, hcompile', hrender _ _ _ rfl rfl rfl ?_⟩
  exact .cons (.marker (.idle (.name trivial) ha hor)) .nil

end Template

end TemplateLiteral
