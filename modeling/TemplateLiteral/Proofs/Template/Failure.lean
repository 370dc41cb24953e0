import TemplateLiteral.Engine
import TemplateLiteral.Proofs.Template.Names
import TemplateLiteral.Proofs.Template.Quoted

/-!
# What goes wrong, and where

A template that does not compile is malformed, and one that is not rendered refers to what is not
there. An expression fails at one of its own parts: at a name that is not bound, or at a property
that is read from what is nothing. The region of that part is what the report points at, and it lies
in the first marker that has no value, since the markers are evaluated in the order of the text and
the first fault ends the rendering.

## Main definitions

* `Scope.Raises`: an expression is itself what goes wrong
* `Scope.FailsAt`: an expression fails at one of its parts
* `Template.FirstFailing`: the first marker of a template that has no value

## Main results

* `Scope.lookup?_eq_none_iff`: the names that are not bound
* `Scope.Raises.reason`: the two reasons that are reported
* `Scope.failsAt_of_chain_eq_error`: the part that an expression fails at
* `Template.exists_firstFailing`: the marker that a template fails at
* `Engine.reports`: the kind, the name, the place and the reason of every report
-/

namespace TemplateLiteral

theorem Value.text_of_isNullish {v : Value} (h : v.isNullish) :
    v.text ∈ ["undefined", "null"] := by
  cases v with
  | undefined => exact .head _
  | null => exact .tail _ (.head _)
  | _ => cases h

namespace Scope

variable {scope : Scope} {e s p : Expr} {fault : EvalFault} {cause : EvalFault.Cause}

/-! ## Names that are not bound -/

theorem global?_eq_none_iff {x : String} :
    global? x = none ↔ x ∉ ["undefined", "NaN", "Infinity"] := by
  unfold global?
  split <;> simp_all

theorem declared?_eq_none_iff {x : String} : scope.declared? x = none ↔
    x ∉ scope.parameters.declared ∧ scope.parameters.binding? ≠ some x := by
  obtain ⟨parameters, store⟩ := scope
  cases parameters with
  | each names => simp [declared?, Parameters.declared, Parameters.binding?]
  | whole binding =>
    simp only [declared?, Parameters.declared, Parameters.binding?]
    split
    next h => simp [h]
    next h => simpa using Ne.symm h

theorem lookup?_eq_none_iff {x : String} : scope.lookup? x = none ↔
    (x ∉ scope.parameters.declared ∧ scope.parameters.binding? ≠ some x) ∧
      x ∉ ["undefined", "NaN", "Infinity"] := by
  rw [lookup?, Option.or_eq_none_iff, declared?_eq_none_iff, global?_eq_none_iff]

/-! ## Where expressions fail -/

/-- The expression itself is what goes wrong, not one of its parts: a name is not bound, or the
receiver of a property is nothing. -/
inductive Raises (scope : Scope) : Expr → EvalFault.Cause → Prop where
  | unbound {x : String} {r : Region} :
      scope.lookup? x = none → Raises scope (.name x r) (.unbound x)
  | member {receiver : Expr} {x : String} {place r : Region} {v : Value} :
      scope.chain receiver = .ok (some v) → v.isNullish →
      Raises scope (.member receiver x place false r) (.noProperties v.text x)
  | index {receiver key : Expr} {r : Region} {v : Value} {k : Option Value} :
      scope.chain receiver = .ok (some v) → scope.chain key = .ok k → v.isNullish →
      Raises scope (.index receiver key false r)
        (.noProperties v.text (k.getD .undefined).text)

/-- There are two reasons for what goes wrong. -/
theorem Raises.reason (h : scope.Raises s cause) :
    (∃ x r, s = .name x r ∧ x ∉ scope.parameters.declared ∧
      scope.parameters.binding? ≠ some x ∧ x ∉ ["undefined", "NaN", "Infinity"] ∧
      cause.reason = x ++ " is not defined") ∨
    ∃ nothing ∈ ["undefined", "null"], ∃ key, cause.reason =
      "cannot read properties of " ++ nothing ++ " (reading '" ++ key ++ "')" := by
  cases h with
  | unbound hunbound =>
    obtain ⟨⟨hdeclared, hbound⟩, hglobal⟩ := lookup?_eq_none_iff.1 hunbound
    exact .inl ⟨_, _, rfl, hdeclared, hbound, hglobal, rfl⟩
  | member _ hnullish => exact .inr ⟨_, Value.text_of_isNullish hnullish, _, rfl⟩
  | index _ _ hnullish => exact .inr ⟨_, Value.text_of_isNullish hnullish, _, rfl⟩

theorem read_eq_error_iff {v : Value} {key : String} {r : Region} :
    read v key r = .error fault ↔ v.isNullish ∧ fault = ⟨.noProperties v.text key, r⟩ := by
  unfold read
  split
  next h => simp [h, eq_comm]
  next h => simp [h]

/-- The fault arises at a part of the expression, or at the expression itself. -/
def FailsAt (scope : Scope) (e : Expr) (fault : EvalFault) : Prop :=
  ∃ s, s.Within e ∧ s.region = fault.region ∧ scope.Raises s fault.cause

theorem Raises.failsAt (h : scope.Raises e cause) :
    scope.FailsAt e ⟨cause, e.region⟩ :=
  ⟨e, .refl e, rfl, h⟩

theorem FailsAt.of_part (h : scope.FailsAt p fault) (hp : p ∈ e.parts) :
    scope.FailsAt e fault := by
  obtain ⟨s, hs, hregion, hraises⟩ := h
  exact ⟨s, .part hp hs, hregion, hraises⟩

/-- An expression fails at one of its parts, or at itself. -/
theorem failsAt_of_chain_eq_error (h : scope.chain e = .error fault) : scope.FailsAt e fault := by
  induction e generalizing fault with
  | literal value r => cases h
  | name x r =>
    simp only [chain] at h
    split at h
    · cases h
    next hunbound =>
      cases h
      exact (Raises.unbound hunbound).failsAt
  | member receiver x place optional r ih =>
    rcases bind_eq_error_iff.1 h with h | ⟨v, hv, h⟩
    · exact (ih h).of_part List.mem_cons_self
    cases v with
    | none => cases h
    | some v =>
      dsimp only at h
      split at h
      · cases h
      next hoptional =>
      rcases bind_eq_error_iff.1 h with h | ⟨_, -, ⟨⟩⟩
      obtain ⟨hnullish, rfl⟩ := read_eq_error_iff.1 h
      obtain rfl : optional = false := by simpa [hnullish] using hoptional
      exact (Raises.member hv hnullish).failsAt
  | index receiver key optional r ihReceiver ihKey =>
    rcases bind_eq_error_iff.1 h with h | ⟨v, hv, h⟩
    · exact (ihReceiver h).of_part List.mem_cons_self
    cases v with
    | none => cases h
    | some v =>
      dsimp only at h
      split at h
      · cases h
      next hoptional =>
      rcases bind_eq_error_iff.1 h with h | ⟨k, hk, h⟩
      · exact (ihKey h).of_part (List.mem_cons_of_mem _ List.mem_cons_self)
      rcases bind_eq_error_iff.1 h with h | ⟨_, -, ⟨⟩⟩
      obtain ⟨hnullish, rfl⟩ := read_eq_error_iff.1 h
      obtain rfl : optional = false := by simpa [hnullish] using hoptional
      exact (Raises.index hv hk hnullish).failsAt
  | unary op operand r ih =>
    by_cases hname : op = .typeof ∧ ∃ x r, operand.ungroup = .name x r
    · -- The type of a name is known even if the name is not bound.
      obtain ⟨rfl, x, r', hungroup⟩ := hname
      simp only [chain, hungroup] at h
      cases h
    · rw [chain_unary scope hname] at h
      rcases bind_eq_error_iff.1 h with h | ⟨_, -, ⟨⟩⟩
      exact (ih h).of_part List.mem_cons_self
  | binary op left right r ihLeft ihRight =>
    rcases bind_eq_error_iff.1 h with h | ⟨v, -, h⟩
    · exact (ihLeft h).of_part List.mem_cons_self
    dsimp only at h
    split at h
    · cases h
    rcases bind_eq_error_iff.1 h with h | ⟨_, -, ⟨⟩⟩
    exact (ihRight h).of_part (List.mem_cons_of_mem _ List.mem_cons_self)
  | conditional test yes no r ihTest ihYes ihNo =>
    rcases bind_eq_error_iff.1 h with h | ⟨v, -, h⟩
    · exact (ihTest h).of_part List.mem_cons_self
    dsimp only at h
    split at h
    · rcases bind_eq_error_iff.1 h with h | ⟨_, -, ⟨⟩⟩
      exact (ihYes h).of_part (List.mem_cons_of_mem _ List.mem_cons_self)
    · rcases bind_eq_error_iff.1 h with h | ⟨_, -, ⟨⟩⟩
      exact (ihNo h).of_part
        (List.mem_cons_of_mem _ (List.mem_cons_of_mem _ List.mem_cons_self))
  | group inner r ih =>
    rcases bind_eq_error_iff.1 h with h | ⟨_, -, ⟨⟩⟩
    exact (ih h).of_part List.mem_cons_self

theorem failsAt_of_evaluate_eq_error (h : scope.evaluate e = .error fault) :
    scope.FailsAt e fault := by
  rcases bind_eq_error_iff.1 h with h | ⟨_, -, ⟨⟩⟩
  exact failsAt_of_chain_eq_error h

end Scope

/-- A part of the expression in a marker lies in the marker, in front of its closing brace. -/
theorem Encloses.part_inside [Text.Alphabet] {start : Nat} {body : List Char} {tokens : TokenStream}
    {e s : Expr} (h : Encloses start body tokens) (he : Expr.ofTokens tokens = .ok e)
    (hs : s.Within e) :
    start ≤ s.region.start ∧ s.region.start < s.region.stop ∧
      s.region.stop < start + Text.byteLength body := by
  obtain ⟨front, inside, back, us, rfl, hback, hregion, hinside, hus⟩ := h.exists_stretch he hs
  have hpos := (hus.spans hinside.laid).start_lt_stop hinside.laid
  have hbackPos := Text.byteLength_pos hback
  rw [hregion] at hpos ⊢
  simp only [Text.byteLength_append] at hpos ⊢
  omega

/-! ## Where templates fail -/

namespace Template

variable {source : String} {parameters : Parameters} {name : Option String} {t : Template}
  {store : Store} {d : Diagnostic}

theorem name_of_compile_eq_error [Text.Alphabet] (h : compile source parameters name = .error d) :
    d.name = name := by
  unfold compile at h
  split at h
  · cases h
    exact Diagnostic.name_inTemplate _ name rfl
  · split at h
    · cases h
      exact Diagnostic.name_inTemplate _ name rfl
    · cases h

/-- Of the markers of a template, in the order of its text, the marker with the expression in the
region is the first that has no value. -/
def FirstFailing (t : Template) (store : Store) (e : Expr) (region : Region) : Prop :=
  ∃ before chars after, t.segments = before ++ .marker e chars region :: after ∧
    region.slice? t.source.toList = some chars ∧
    (∀ b ∈ before, b.region.stop ≤ region.start ∧
      ∃ out, b.text (t.scope store) = .ok out) ∧
    ∃ fault, (t.scope store).evaluate e = .error fault

/-- A template that is not rendered has a first marker that has no value, and the report is of the
fault in it. -/
theorem exists_firstFailing [Text.Alphabet] (h : compile source parameters name = .ok t)
    (hd : t.render store = .error d) : ∃ e chars region fault,
      .marker e chars region ∈ t.segments ∧ t.FirstFailing store e region ∧
      (t.scope store).evaluate e = .error fault ∧
      d = (fault.diagnostic t.parameters t.source).inTemplate t.name := by
  have hreads := reads_of_compile h
  have hsource : t.source = source := by
    obtain ⟨-, segments, -, rfl⟩ := compile_eq_ok_iff.1 h
    rfl
  rw [render] at hd
  split at hd
  · cases hd
  next fault houtput =>
  cases hd
  rcases bind_eq_error_iff.1 houtput with houtput | ⟨_, -, ⟨⟩⟩
  obtain ⟨before, s, after, hsegments, hbefore, hs⟩ := exists_append_cons_of_mapM_eq_error houtput
  have hmem : s ∈ t.segments := hsegments ▸ List.mem_append_right before List.mem_cons_self
  have hordered := hreads.ordered
  rw [hsegments, List.pairwise_append] at hordered
  cases s with
  | literal => cases hs
  | marker e chars region =>
    -- Showing a value cannot fail, so that the fault is that of the expression.
    rcases bind_eq_error_iff.1 hs with hs | ⟨_, -, ⟨⟩⟩
    refine ⟨e, chars, region, fault, hmem, ⟨before, chars, after, hsegments, ?_, ?_, fault, hs⟩,
      hs, rfl⟩
    · rw [hsource]
      exact hreads.slice?_region _ hmem
    · exact fun b hb => ⟨hordered.2.2 b hb _ List.mem_cons_self, hbefore b hb⟩

end Template

namespace Engine

variable {engine : Engine} {text : String} {names : List String} {t : Template}

/-- A template of an engine declares the names it is given, and its one name for all values is that
of the engine. -/
theorem exists_parameters_of_compile [Text.Alphabet] (h : engine.compile text names = .ok t) :
    ∃ parameters,
    Template.compile text parameters engine.name = .ok t ∧ parameters.declared = names ∧
      ∀ x, engine.binding = .single x → parameters.binding? = some x := by
  unfold compile at h
  cases hbinding : engine.binding with
  | destructure =>
    rw [hbinding] at h
    exact ⟨.each names, h, rfl, nofun⟩
  | single binding =>
    rw [hbinding] at h
    dsimp only at h
    split at h
    next hnames =>
      refine ⟨.whole binding, h, (List.isEmpty_iff.1 hnames).symm, ?_⟩
      rintro x ⟨⟩
      rfl
    next => cases h

theorem report_of_compile_eq_error [Text.Alphabet] {d : Diagnostic}
    (h : engine.compile text names = .error d) :
    d.kind = .malformed ∧ d.name = engine.name := by
  unfold compile at h
  split at h
  · exact ⟨Template.kind_of_compile_eq_error h, Template.name_of_compile_eq_error h⟩
  · split at h
    · exact ⟨Template.kind_of_compile_eq_error h, Template.name_of_compile_eq_error h⟩
    · cases h
      exact ⟨Diagnostic.kind_inTemplate _ _, Diagnostic.name_inTemplate _ _ rfl⟩

end Engine

/-- Reports keep to their stage, have the name that the engine gives, and point into the text. What
does not compile is malformed. What is not rendered refers to what is not there: the report points
at a part of the first marker without a value, and this part is a name that is not bound, or reads a
property of what is nothing. -/
theorem Engine.reports [Text.Alphabet] (engine : Engine) (text : String) (names : List String) :
    (∀ d, engine.compile text names = .error d → d.kind = .malformed ∧ d.name = engine.name) ∧
    ∀ t, engine.compile text names = .ok t → t.source = text ∧ t.name = engine.name ∧
      ∀ store d, t.render store = .error d → d.kind = .reference ∧ d.name = t.name ∧
        ∃ (e s : Expr) (region : Region), t.FirstFailing store e region ∧ s.Within e ∧
          d.pointer = some (.ofRegion text s.region) ∧ s.region.start < s.region.stop ∧
          region.start ≤ s.region.start ∧ s.region.stop ≤ region.stop ∧
          ((∃ x r, s = .name x r ∧ x ∉ names ∧ engine.binding ≠ .single x ∧
              x ∉ ["undefined", "NaN", "Infinity"] ∧ d.reason = x ++ " is not defined") ∨
            ∃ nothing ∈ ["undefined", "null"], ∃ key, d.reason =
              "cannot read properties of " ++ nothing ++ " (reading '" ++ key ++ "')") := by
  refine ⟨fun d hd => report_of_compile_eq_error hd, fun t h => ?_⟩
  obtain ⟨parameters, hcompile, rfl, hbinding⟩ := exists_parameters_of_compile h
  have hreads := Template.reads_of_compile hcompile
  obtain ⟨-, segments, -, ht⟩ := Template.compile_eq_ok_iff.1 hcompile
  have hsource : t.source = text := congrArg Template.source ht
  have hparameters : t.parameters = parameters := congrArg Template.parameters ht
  refine ⟨hsource, congrArg Template.name ht, fun store d hd => ?_⟩
  obtain ⟨e, chars, region, fault, hmarker, hfirst, hfault, rfl⟩ :=
    Template.exists_firstFailing hcompile hd
  obtain ⟨before, body, after, tokens, -, hchars, hregion, hbody, he⟩ :=
    hreads.closes e chars region hmarker
  obtain ⟨s, hs, hsregion, hraises⟩ := Scope.failsAt_of_evaluate_eq_error hfault
  obtain ⟨hstart, hpos, hstop⟩ := hbody.part_inside he hs
  refine ⟨Diagnostic.kind_inTemplate _ _, Diagnostic.name_inTemplate _ _ rfl, e, s, region, hfirst,
    hs, ?_, hpos, ?_, ?_, ?_⟩
  · rw [Diagnostic.pointer_inTemplate, hsregion, ← hsource]
    rfl
  · omega
  · have hlength := byteLength_opening body
    have hregionStop := congrArg Region.stop hregion
    have hregionStart := congrArg Region.start hregion
    rw [hchars] at hregionStop
    dsimp only at hregionStop hregionStart
    omega
  · have hreason : (fault.diagnostic t.parameters t.source).reason = fault.cause.reason := rfl
    rw [Diagnostic.reason_inTemplate, hreason]
    rcases hraises.reason with ⟨x, r, rfl, hdeclared, hbound, hglobal, hx⟩ | hnothing
    · rw [Template.scope, hparameters] at hdeclared hbound
      exact .inl ⟨x, r, rfl, hdeclared, fun hsingle => hbound (hbinding x hsingle), hglobal, hx⟩
    · exact .inr hnothing

set_option maxRecDepth 4000 in
/-- A name that is declared twice, and a text of which the second marker and the third have no
value. -/
theorem Engine.reports_named :
    (∃ d, (({} : Engine).named "greeting").compile "$\x7ba\x7d" ["a", "a"] = .error d ∧
      d.kind = .malformed ∧ d.name = some "greeting") ∧
    ∃ t d, (({} : Engine).named "greeting").compile "é$\x7ba?.b\x7d$\x7ba.b.c\x7d$\x7bx\x7d"
        ["a"] = .ok t ∧
      t.render (.ofFields [("a", .object [])]) = .error d ∧ d.kind = .reference ∧
      d.name = some "greeting" ∧
      d.reason = "cannot read properties of undefined (reading 'c')" ∧
      ∃ (e s : Expr) (region : Region),
        t.FirstFailing (.ofFields [("a", .object [])]) e region ∧ s.Within e ∧
        d.pointer = some (.ofRegion "é$\x7ba?.b\x7d$\x7ba.b.c\x7d$\x7bx\x7d" s.region) ∧
        s.region.start < s.region.stop ∧ region.start ≤ s.region.start ∧
        s.region.stop ≤ region.stop := by
  have hrepeated : ∃ d, (({} : Engine).named "greeting").compile "$\x7ba\x7d" ["a", "a"] =
      .error d := ⟨_, by cbv⟩
  have hfails : ∃ t fault, (({} : Engine).named "greeting").compile
      "é$\x7ba?.b\x7d$\x7ba.b.c\x7d$\x7bx\x7d" ["a"] = .ok t ∧
      t.output (.ofFields [("a", .object [])]) = .error fault ∧
      fault.cause.reason = "cannot read properties of undefined (reading 'c')" := by
    exact ⟨_, ⟨.noProperties "undefined" "c", ⟨11, 16⟩⟩, by cbv, by cbv, rfl⟩
  obtain ⟨d, hd⟩ := hrepeated
  refine ⟨⟨d, hd, (Engine.reports _ _ _).1 d hd⟩, ?_⟩
  obtain ⟨t, fault, ht, hfault, hcause⟩ := hfails
  obtain ⟨d, hd, hkind, hreason⟩ := Template.render_of_output_eq_error hfault
  obtain ⟨-, hname, hreport⟩ := (Engine.reports _ _ _).2 t ht
  obtain ⟨-, hdname, e, s, region, hfirst, hs, hpointer, hpos, hstart, hstop, -⟩ :=
    hreport _ d hd
  exact ⟨t, d, ht, hd, hkind, hdname.trans hname, hreason.trans hcause, e, s, region, hfirst, hs,
    hpointer, hpos, hstart, hstop⟩

end TemplateLiteral
