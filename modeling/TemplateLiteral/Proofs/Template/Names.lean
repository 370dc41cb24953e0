import TemplateLiteral.Proofs.Expr.Congruence
import TemplateLiteral.Proofs.Template.Concatenation
import TemplateLiteral.Proofs.Value.Alike

/-!
# A template sees only the names it mentions

An expression gets at the store through the names in it, and in no other way. So a template makes
the same of two stores if these agree on the names it mentions: whatever else they hold, whatever
else is declared, and in whatever order the fields of an object stand.

## Main definitions

* `Expr.names`, `Template.mentioned`: the names that stand in expressions
* `Scope.AgreeOn`: two scopes in which names stand for values that are alike

## Main results

* `Scope.chain_together`: an expression in two scopes that agree on its names
* `Template.render_alike`: a text for two lists of names and two stores that agree
-/

namespace TemplateLiteral

/-! ## Names in expressions -/

/-- The names that are looked up for an expression. The names of properties are not. -/
def Expr.names : Expr → List String
  | .literal .. => []
  | .name x _ => [x]
  | .member receiver _ _ _ _ => receiver.names
  | .index receiver key _ _ => receiver.names ++ key.names
  | .unary _ operand _ => operand.names
  | .binary _ left right _ => left.names ++ right.names
  | .conditional test yes no _ => test.names ++ (yes.names ++ no.names)
  | .group inner _ => inner.names

@[simp] theorem Expr.names_ungroup (e : Expr) : e.ungroup.names = e.names := by
  induction e with
  | group inner r ih => exact ih
  | _ => rfl

/-- The names that a segment mentions. -/
def Segment.names : Segment → List String
  | .literal .. => []
  | .marker e _ _ => e.names

theorem Segment.names_subset_of_mem_atoms {segments : List Segment} {e : Expr}
    (h : .value e ∈ segments.flatMap Segment.atoms) :
    e.names ⊆ segments.flatMap Segment.names := by
  obtain ⟨s, hs, hatom⟩ := List.mem_flatMap.1 h
  intro x hx
  refine List.mem_flatMap.2 ⟨s, hs, ?_⟩
  cases s with
  | literal text region =>
    obtain ⟨c, -, ⟨⟩⟩ := List.mem_map.1 hatom
  | marker e' text region =>
    obtain ⟨⟩ := List.mem_singleton.1 hatom
    exact hx

/-- The names that the expressions of a text mention. A text that is no template mentions none. -/
def Template.mentioned [Text.Alphabet] (source : String) : List String :=
  match Segment.ofText source.toList with
  | .ok segments => segments.flatMap Segment.names
  | .error _ => []

/-! ## Expressions in two scopes -/

/-- Neither tests nor operators tell values that are alike apart. -/
theorem Value.respected_alike : Respected Alike where
  undefined := .undefined
  isNullish_eq := Alike.isNullish_eq
  isTruthy_eq := Alike.isTruthy_eq
  text_eq := Alike.text_eq
  decides_eq := Alike.decides_eq
  unary := Alike.unary
  binary := Alike.binary

namespace Scope

/-- The names stand for values that are alike, or for none, in both scopes. -/
def AgreeOn (names : List String) (a b : Scope) : Prop :=
  ∀ x ∈ names, Option.Rel Value.Alike (a.lookup? x) (b.lookup? x)

theorem AgreeOn.mono {xs ys : List String} {a b : Scope} (h : AgreeOn ys a b) (hxs : xs ⊆ ys) :
    AgreeOn xs a b :=
  fun x hx => h x (hxs hx)

theorem read_together {v w : Value} (h : Value.Alike v w) (key : String) (region : Region) :
    Together Eq Value.Alike (read v key region) (read w key region) := by
  unfold read
  rw [h.isNullish_eq, h.text_eq]
  split
  · exact .error rfl
  · exact .ok (h.property key)

variable {a b : Scope}

/-- In scopes that agree on its names an expression has values that are alike, or the same fault. -/
theorem chain_together (e : Expr) (h : AgreeOn e.names a b) :
    Together Eq (Option.Rel Value.Alike) (a.chain e) (b.chain e) := by
  induction e with
  | literal value r => exact .ok (.some (.ofLiteral_refl value))
  | name x r =>
    have hx := h x List.mem_cons_self
    simp only [chain]
    cases ha : a.lookup? x <;> cases hb : b.lookup? x <;> rw [ha, hb] at hx
    · exact .error rfl
    · cases hx
    · cases hx
    · exact .ok hx
  | member receiver x place optional r ih =>
    exact chain_member_together Value.respected_alike optional (ih h)
      fun v w hvw => read_together hvw x r
  | index receiver key optional r ihReceiver ihKey =>
    exact chain_index_together Value.respected_alike optional
      (ihReceiver (h.mono (List.subset_append_left _ _)))
      (ihKey (h.mono (List.subset_append_right _ _))) fun x v w hvw => read_together hvw x r
  | unary op operand r ih =>
    -- The type of a name is asked for without evaluating the name, so it is a case of its own.
    by_cases hname : op = .typeof ∧ ∃ x r, operand.ungroup = .name x r
    · obtain ⟨rfl, x, r', hungroup⟩ := hname
      have hx : x ∈ operand.names := by
        rw [← Expr.names_ungroup, hungroup]
        exact List.mem_cons_self
      simp only [chain, hungroup]
      exact .ok (.some ((getD_related Value.respected_alike (h x hx)).unary .typeof))
    · rw [chain_unary a hname, chain_unary b hname]
      exact apply_together Value.respected_alike op (ih h)
  | binary op left right r ihLeft ihRight =>
    exact chain_binary_together Value.respected_alike op
      (ihLeft (h.mono (List.subset_append_left _ _)))
      (ihRight (h.mono (List.subset_append_right _ _)))
  | conditional test yes no r ihTest ihYes ihNo =>
    have hbranches := h.mono (List.subset_append_right _ _)
    exact chain_conditional_together Value.respected_alike
      (ihTest (h.mono (List.subset_append_left _ _)))
      (ihYes (hbranches.mono (List.subset_append_left _ _)))
      (ihNo (hbranches.mono (List.subset_append_right _ _)))
  | group inner r ih => exact chain_group_together Value.respected_alike (ih h)

/-- In scopes that agree on its names, an expression shows the same, or has the same fault. -/
theorem text_together (e : Expr) (h : AgreeOn e.names a b) :
    Together Eq Eq ((Atom.value e).text a) ((Atom.value e).text b) := by
  refine (evaluate_together Value.respected_alike (chain_together e h)).bind fun v w hvw => ?_
  exact .ok (congrArg String.toList hvw.text_eq)

theorem global?_alike (x : String) : Option.Rel Value.Alike (global? x) (global? x) := by
  unfold global?
  split
  · exact .some .undefined
  · exact .some (.number _)
  · exact .some (.number _)
  · exact .none

/-- Scopes with names of their own agree where both declare a name, with data that are alike, or
neither does. -/
theorem agreeOn_each {names names' xs : List String} {store store' : Store}
    (h : ∀ x ∈ xs, (x ∈ names ↔ x ∈ names') ∧
      (x ∈ names → Option.Rel Data.Alike (store.get? x) (store'.get? x))) :
    AgreeOn xs ⟨.each names, store⟩ ⟨.each names', store'⟩ := by
  intro x hx
  obtain ⟨hdeclared, hdata⟩ := h x hx
  unfold lookup? declared?
  by_cases hmem : x ∈ names
  · simp only [if_pos hmem, if_pos (hdeclared.1 hmem), Option.some_or]
    exact .some (Value.alike_ofData? _ (hdata hmem))
  · simp only [if_neg hmem, if_neg (mt hdeclared.2 hmem), Option.none_or]
    exact global?_alike x

end Scope

/-! ## Templates for two stores -/

namespace Template

/-- In scopes that agree on the names of its segments, a template has the same output, or the same
fault. -/
theorem shown_atoms_together {a b : Scope} {segments : List Segment}
    (h : a.AgreeOn (segments.flatMap Segment.names) b) :
    Together Eq Eq (shown a (segments.flatMap Segment.atoms))
      (shown b (segments.flatMap Segment.atoms)) := by
  refine shown_together a (List.forall₂_same.2 fun atom hatom => ?_)
  cases atom with
  | char c => exact .ok rfl
  | value e => exact Scope.text_together e (h.mono (Segment.names_subset_of_mem_atoms hatom))

theorem render_of_output_eq_error_at {t : Template} {store : Store} {fault : EvalFault}
    (h : t.output store = .error fault) :
    ∃ d, t.render store = .error d ∧ d.kind = .reference ∧ d.reason = fault.cause.reason ∧
      d.pointer = some (.ofRegion t.source fault.region) := by
  rw [render, h]
  exact ⟨_, rfl, Diagnostic.kind_inTemplate _ _, Diagnostic.reason_inTemplate _ _,
    Diagnostic.pointer_inTemplate _ _⟩

theorem exists_compile_eq_error [Text.Alphabet] {source : String} {fault : SyntaxFault}
    (h : Segment.ofText source.toList = .error fault) {parameters : Parameters}
    (hparameters : parameters.fault? = none) (name : Option String) :
    ∃ d, compile source parameters name = .error d ∧ d.kind = .malformed ∧
      d.reason = fault.cause.reason ∧ d.pointer = some (.ofRegion source fault.region) := by
  rw [compile, hparameters, h]
  exact ⟨_, rfl, Diagnostic.kind_inTemplate _ _, Diagnostic.reason_inTemplate _ _,
    Diagnostic.pointer_inTemplate _ _⟩

/-- Templates of one text with the same output or the same fault are rendered as the same text, or
report the same in the same region. -/
theorem render_together {t₁ t₂ : Template} {store₁ store₂ : Store}
    (hsource : t₂.source = t₁.source)
    (h : Together Eq Eq (t₁.output store₁) (t₂.output store₂)) :
    (∃ out, t₁.render store₁ = .ok out ∧ t₂.render store₂ = .ok out) ∨
    ∃ d₁ d₂ region, t₁.render store₁ = .error d₁ ∧ t₂.render store₂ = .error d₂ ∧
      d₁.kind = d₂.kind ∧ d₁.reason = d₂.reason ∧
      d₁.pointer = some (.ofRegion t₁.source region) ∧
      d₂.pointer = some (.ofRegion t₁.source region) := by
  generalize hout₁ : t₁.output store₁ = out₁ at h
  generalize hout₂ : t₂.output store₂ = out₂ at h
  cases h with
  | ok heq =>
    subst heq
    exact .inl ⟨_, render_of_output_eq_ok hout₁, render_of_output_eq_ok hout₂⟩
  | @error fault _ heq =>
    subst heq
    obtain ⟨d₁, hd₁, hkind₁, hreason₁, hpointer₁⟩ := render_of_output_eq_error_at hout₁
    obtain ⟨d₂, hd₂, hkind₂, hreason₂, hpointer₂⟩ := render_of_output_eq_error_at hout₂
    rw [hsource] at hpointer₂
    exact .inr ⟨d₁, d₂, fault.region, hd₁, hd₂, hkind₁.trans hkind₂.symm,
      hreason₁.trans hreason₂.symm, hpointer₁, hpointer₂⟩

/-- Of two lists of names and two stores that agree on the names it mentions, a text makes the same:
the same output, or the same report of a fault in the same region. To agree on a name is to declare
it in both lists, with data that are alike or missing in both stores, or in neither list. -/
theorem render_alike [Text.Alphabet] {source : String} {names₁ names₂ : List String}
    {store₁ store₂ : Store} (h₁ : (Parameters.each names₁).fault? = none)
    (h₂ : (Parameters.each names₂).fault? = none)
    (hagree : ∀ x ∈ mentioned source, (x ∈ names₁ ↔ x ∈ names₂) ∧
      (x ∈ names₁ → Option.Rel Data.Alike (store₁.get? x) (store₂.get? x)))
    (name₁ name₂ : Option String) :
    (∃ out, (compile source (.each names₁) name₁ >>= (·.render store₁)) = .ok out ∧
      (compile source (.each names₂) name₂ >>= (·.render store₂)) = .ok out) ∨
    ∃ d₁ d₂ region, (compile source (.each names₁) name₁ >>= (·.render store₁)) = .error d₁ ∧
      (compile source (.each names₂) name₂ >>= (·.render store₂)) = .error d₂ ∧
      d₁.kind = d₂.kind ∧ d₁.reason = d₂.reason ∧
      d₁.pointer = some (.ofRegion source region) ∧
      d₂.pointer = some (.ofRegion source region) := by
  cases hsegments : Segment.ofText source.toList with
  | error fault =>
    obtain ⟨d₁, hd₁, hkind₁, hreason₁, hpointer₁⟩ := exists_compile_eq_error hsegments h₁ name₁
    obtain ⟨d₂, hd₂, hkind₂, hreason₂, hpointer₂⟩ := exists_compile_eq_error hsegments h₂ name₂
    rw [hd₁, hd₂]
    exact .inr ⟨d₁, d₂, fault.region, rfl, rfl, hkind₁.trans hkind₂.symm,
      hreason₁.trans hreason₂.symm, hpointer₁, hpointer₂⟩
  | ok segments =>
    rw [compile_eq_ok_iff.2 ⟨h₁, segments, hsegments, rfl⟩,
      compile_eq_ok_iff.2 ⟨h₂, segments, hsegments, rfl⟩]
    rw [mentioned, hsegments] at hagree
    refine render_together rfl ?_
    rw [output_eq, output_eq]
    exact shown_atoms_together (Scope.agreeOn_each hagree)

set_option maxRecDepth 4000 in
/-- One store holds more than the other, and the fields of an object in another order. -/
theorem render_alike_reordered :
    ∃ out,
      (compile "$\x7ba.y ?? b\x7d$\x7btypeof c\x7d" (.each ["a", "b"]) none >>= (·.render
        (.ofFields [("a", .object [("x", .boolean true), ("y", .null)]), ("b", .string "é")]))) =
          .ok out ∧
      (compile "$\x7ba.y ?? b\x7d$\x7btypeof c\x7d" (.each ["b", "d", "a"]) none >>= (·.render
        (.ofFields [("b", .string "é"), ("c", .null),
          ("a", .object [("y", .null), ("x", .boolean true)])]))) = .ok out := by
  have hmentioned : mentioned "$\x7ba.y ?? b\x7d$\x7btypeof c\x7d" = ["a", "b", "c"] := by
    rw [mentioned]
    cbv
  have hdata : Data.Alike (.object [("x", .boolean true), ("y", .null)])
      (.object [("y", .null), ("x", .boolean true)]) := .of_perm (by decide) (.swap _ _ [])
  have h₁ : (Parameters.each ["a", "b"]).fault? = none := by decide
  have h₂ : (Parameters.each ["b", "d", "a"]).fault? = none := by decide
  have hrender := @render_alike _ "$\x7ba.y ?? b\x7d$\x7btypeof c\x7d" _ _
    (.ofFields [("a", .object [("x", .boolean true), ("y", .null)]), ("b", .string "é")])
    (.ofFields [("b", .string "é"), ("c", .null),
      ("a", .object [("y", .null), ("x", .boolean true)])]) h₁ h₂ (by
    rw [hmentioned]
    intro x hx
    simp only [List.mem_cons, List.not_mem_nil, or_false] at hx
    rcases hx with rfl | rfl | rfl
    · exact ⟨by decide, fun _ => .some hdata⟩
    · exact ⟨by decide, fun _ => .some (.refl _)⟩
    · exact ⟨by decide, fun hc => absurd hc (by decide)⟩) none none
  rcases hrender with hsame | hfault
  · exact hsame
  · obtain ⟨d₁, _, _, hd₁, -⟩ := hfault
    have hout : (compile "$\x7ba.y ?? b\x7d$\x7btypeof c\x7d" (.each ["a", "b"]) none >>=
        (·.render (.ofFields [("a", .object [("x", .boolean true), ("y", .null)]),
          ("b", .string "é")]))) = .ok "éundefined" := by cbv
    cases hout.symm.trans hd₁

end Template

end TemplateLiteral
