import TemplateLiteral.Proofs.Expr.Evaluation
import TemplateLiteral.Proofs.Template.Failure

/-!
# Templates that do not fail

Two things can go wrong with an expression: a name is not bound, or a property is read from what is
nothing. Both can be ruled out from the text alone. The names that are asked for their values have
to be bound, and every link has to be optional. Then no store makes the template fail, whatever
types its values have and whichever keys are missing, since operators and coercions take all values.

The name that `typeof` stands before is not asked for its value, with parentheses or without.

## Main definitions

* `Expr.needed`: the names that have to be bound
* `Expr.linksOptional`: all links of an expression are optional
* `Template.Safe`: a template that rules out both

## Main results

* `Scope.exists_evaluate_eq_ok`: an expression has a value
* `Template.Safe.exists_render_eq_ok`: a template has an output for every store
-/

namespace TemplateLiteral

/-! ## What can be seen in an expression -/

namespace Expr

/-- The names that an expression asks for their values. -/
def needed : Expr → List String
  | .literal .. => []
  | .name x _ => [x]
  | .member receiver _ _ _ _ => receiver.needed
  | .index receiver key _ _ => receiver.needed ++ key.needed
  | .unary op operand _ =>
    match op, operand.ungroup with
    | .typeof, .name _ _ => []
    | _, _ => operand.needed
  | .binary _ left right _ => left.needed ++ right.needed
  | .conditional test yes no _ => test.needed ++ (yes.needed ++ no.needed)
  | .group inner _ => inner.needed

/-- All links of an expression are optional, at any depth. -/
def linksOptional : Expr → Bool
  | .literal .. | .name .. => true
  | .member receiver _ _ optional _ => optional && receiver.linksOptional
  | .index receiver key optional _ => optional && (receiver.linksOptional && key.linksOptional)
  | .unary _ operand _ => operand.linksOptional
  | .binary _ left right _ => left.linksOptional && right.linksOptional
  | .conditional test yes no _ =>
    test.linksOptional && (yes.linksOptional && no.linksOptional)
  | .group inner _ => inner.linksOptional

theorem needed_unary {op : UnaryOperator} {operand : Expr}
    (h : ¬ (op = .typeof ∧ ∃ x r, operand.ungroup = .name x r)) (r : Region) :
    (Expr.unary op operand r).needed = operand.needed := by
  rw [needed]
  intro x r' hop hungroup
  exact h ⟨hop, x, r', hungroup⟩

end Expr

/-! ## Expressions -/

namespace Scope

variable {scope : Scope} {e : Expr}

theorem exists_read_eq_ok {v : Value} (h : v.isNullish = false) (key : String) (r : Region) :
    ∃ w, read v key r = .ok w := by
  rw [read, h]
  exact ⟨_, rfl⟩

/-- Where the names that are needed are bound, and all links are optional, nothing goes wrong. -/
theorem exists_chain_eq_ok (hbound : ∀ x ∈ e.needed, scope.lookup? x ≠ none)
    (hoptional : e.linksOptional) : ∃ found, scope.chain e = .ok found := by
  -- Whether the chain is cut short is left open, so that a link need not know it of its receiver.
  induction e with
  | literal value r => exact ⟨_, rfl⟩
  | name x r =>
    obtain ⟨v, hv⟩ := Option.ne_none_iff_exists'.1 (hbound x List.mem_cons_self)
    exact ⟨some v, by rw [chain, hv]⟩
  | member receiver x place optional r ih =>
    obtain ⟨rfl, hreceiver⟩ := Bool.and_eq_true_iff.1 hoptional
    refine exists_bind_eq_ok (ih hbound hreceiver) fun found => ?_
    cases found with
    | none => exact ⟨none, rfl⟩
    | some v =>
      dsimp only
      split
      next => exact ⟨none, rfl⟩
      next hgoes =>
        exact exists_bind_eq_ok (exists_read_eq_ok (Bool.eq_false_iff.2 hgoes) x r)
          fun _ => ⟨_, rfl⟩
  | index receiver key optional r ihReceiver ihKey =>
    obtain ⟨rfl, hparts⟩ := Bool.and_eq_true_iff.1 hoptional
    obtain ⟨hreceiver, hkey⟩ := Bool.and_eq_true_iff.1 hparts
    obtain ⟨hboundReceiver, hboundKey⟩ := List.forall_mem_append.1 hbound
    refine exists_bind_eq_ok (ihReceiver hboundReceiver hreceiver) fun found => ?_
    cases found with
    | none => exact ⟨none, rfl⟩
    | some v =>
      dsimp only
      split
      next => exact ⟨none, rfl⟩
      next hgoes =>
        refine exists_bind_eq_ok (ihKey hboundKey hkey) fun k => ?_
        exact exists_bind_eq_ok (exists_read_eq_ok (Bool.eq_false_iff.2 hgoes) _ r)
          fun _ => ⟨_, rfl⟩
  | unary op operand r ih =>
    by_cases hname : op = .typeof ∧ ∃ x r, operand.ungroup = .name x r
    · -- The type of a name is known even if the name is not bound.
      obtain ⟨rfl, x, r', hungroup⟩ := hname
      have htype : scope.chain (.unary .typeof operand r) =
          .ok (some (UnaryOperator.typeof.apply ((scope.lookup? x).getD .undefined))) := by
        simp only [chain, hungroup]
      exact ⟨_, htype⟩
    · rw [Expr.needed_unary hname] at hbound
      rw [chain_unary scope hname]
      exact exists_bind_eq_ok (ih hbound hoptional) fun _ => ⟨_, rfl⟩
  | binary op left right r ihLeft ihRight =>
    obtain ⟨hleft, hright⟩ := Bool.and_eq_true_iff.1 hoptional
    obtain ⟨hboundLeft, hboundRight⟩ := List.forall_mem_append.1 hbound
    refine exists_bind_eq_ok (ihLeft hboundLeft hleft) fun found => ?_
    dsimp only
    split
    next => exact ⟨_, rfl⟩
    next => exact exists_bind_eq_ok (ihRight hboundRight hright) fun _ => ⟨_, rfl⟩
  | conditional test yes no r ihTest ihYes ihNo =>
    obtain ⟨htest, hbranches⟩ := Bool.and_eq_true_iff.1 hoptional
    obtain ⟨hyes, hno⟩ := Bool.and_eq_true_iff.1 hbranches
    obtain ⟨hboundTest, hboundBranches⟩ := List.forall_mem_append.1 hbound
    obtain ⟨hboundYes, hboundNo⟩ := List.forall_mem_append.1 hboundBranches
    refine exists_bind_eq_ok (ihTest hboundTest htest) fun found => ?_
    dsimp only
    split
    next => exact exists_bind_eq_ok (ihYes hboundYes hyes) fun _ => ⟨_, rfl⟩
    next => exact exists_bind_eq_ok (ihNo hboundNo hno) fun _ => ⟨_, rfl⟩
  | group inner r ih =>
    exact exists_bind_eq_ok (ih hbound hoptional) fun _ => ⟨_, rfl⟩

theorem exists_evaluate_eq_ok (hbound : ∀ x ∈ e.needed, scope.lookup? x ≠ none)
    (hoptional : e.linksOptional) : ∃ v, scope.evaluate e = .ok v :=
  exists_bind_eq_ok (exists_chain_eq_ok hbound hoptional) fun _ => ⟨_, rfl⟩

end Scope

/-! ## Templates -/

namespace Template

/-- Nothing can go wrong with the expressions of the template. -/
structure Safe (t : Template) : Prop where
  /-- The names that are asked for their values are declared, or bound anyway. -/
  bound : ∀ e chars region, .marker e chars region ∈ t.segments → ∀ x ∈ e.needed,
    x ∈ t.parameters.declared ∨ t.parameters.binding? = some x ∨
      x ∈ ["undefined", "NaN", "Infinity"]
  optional : ∀ e chars region, .marker e chars region ∈ t.segments → e.linksOptional

/-- A template in which nothing can go wrong has an output for every store. -/
theorem Safe.exists_render_eq_ok {t : Template} (h : t.Safe) (store : Store) :
    ∃ out, t.render store = .ok out := by
  have houtput : ∃ text, t.output store = .ok text := by
    refine exists_bind_eq_ok (exists_mapM_eq_ok fun s hs => ?_) fun _ => ⟨_, rfl⟩
    cases s with
    | literal text region => exact ⟨text, rfl⟩
    | marker e chars region =>
      refine exists_bind_eq_ok (Scope.exists_evaluate_eq_ok (fun x hx => ?_)
        (h.optional e chars region hs)) fun _ => ⟨_, rfl⟩
      rw [ne_eq, Scope.lookup?_eq_none_iff]
      rintro ⟨⟨hdeclared, hbinding⟩, hglobal⟩
      rcases h.bound e chars region hs x hx with hx | hx | hx
      · exact hdeclared hx
      · exact hbinding hx
      · exact hglobal hx
  obtain ⟨text, htext⟩ := houtput
  exact ⟨_, render_of_output_eq_ok htext⟩

/-- A name that is not bound, under `typeof`, and a chain that computes the name of a property of
another one. -/
theorem Safe.exists_render_typeof_eq_ok : ∃ t,
    compile "$\x7btypeof (c)\x7d: $\x7ba?.[a?.b]?.c ?? NaN\x7d" (.each ["a"]) none = .ok t ∧
      t.Safe ∧ ∀ store, ∃ out, t.render store = .ok out := by
  let e : Expr := .unary .typeof (.group (.name "c" ⟨10, 11⟩) ⟨9, 12⟩) ⟨2, 12⟩
  let key : Expr := .member (.name "a" ⟨21, 22⟩) "b" ⟨24, 25⟩ true ⟨21, 25⟩
  let e' : Expr := .binary .nullish
    (.member (.index (.name "a" ⟨17, 18⟩) key true ⟨17, 26⟩) "c" ⟨28, 29⟩ true ⟨17, 29⟩)
    (.name "NaN" ⟨33, 36⟩) ⟨17, 36⟩
  let t : Template := ⟨"$\x7btypeof (c)\x7d: $\x7ba?.[a?.b]?.c ?? NaN\x7d", none, .each ["a"],
    [.marker e "$\x7btypeof (c)\x7d".toList ⟨0, 13⟩, .literal [':', ' '] ⟨13, 15⟩,
      .marker e' "$\x7ba?.[a?.b]?.c ?? NaN\x7d".toList ⟨15, 37⟩]⟩
  have hcompile : compile "$\x7btypeof (c)\x7d: $\x7ba?.[a?.b]?.c ?? NaN\x7d" (.each ["a"]) none =
      .ok t := by
    cbv
  have hsafe : ∀ f ∈ [e, e'], f.linksOptional ∧ ∀ x ∈ f.needed,
      x ∈ ["a"] ∨ none = some x ∨ x ∈ ["undefined", "NaN", "Infinity"] := by
    decide
  have hexpr : ∀ f chars region, .marker f chars region ∈ t.segments → f ∈ [e, e'] := by
    simp only [t, List.mem_cons, List.not_mem_nil, or_false, Segment.marker.injEq, reduceCtorEq,
      false_or]
    exact fun f chars region h => h.imp And.left And.left
  have h : t.Safe := ⟨fun f _ _ hf => (hsafe f (hexpr f _ _ hf)).2,
    fun f _ _ hf => (hsafe f (hexpr f _ _ hf)).1⟩
  exact ⟨t, hcompile, h, fun store => h.exists_render_eq_ok store⟩

end Template

end TemplateLiteral
