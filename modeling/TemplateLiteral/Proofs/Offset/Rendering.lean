import Mathlib
import TemplateLiteral.Engine
import TemplateLiteral.Proofs.Offset.Piece
import TemplateLiteral.Proofs.Offset.Pointer
import TemplateLiteral.Template.SourceText

/-!
# Templates by byte offsets

A template that keeps its text and the regions of its segments, and takes slices whenever it is
compiled, rendered, written as a function, or reports a fault. No slice fails and no difference
is negative: all of it does what templates do that keep texts. The regions that are pointed at fit
the text.

## Main definitions

* `Offset.chain`, `Offset.evaluate`: the value of an expression by regions
* `Offset.Template`, `Offset.compile`, `Offset.Template.render`, `Offset.Template.sourceText`

## Main results

* `Offset.chain_agrees`, `Offset.output_agrees`
* `Engine.compile_slices`: templates by byte offsets are templates
-/

namespace TemplateLiteral

namespace Offset

/-! ## The value of an expression -/

/-- A step without slices. -/
def unsliced {ε α : Type} (x : Except ε α) : Checked ε α :=
  ExceptT.mk (some x)

/-- The expression without the parentheses around it. -/
def Tree.ungroup : Tree → Tree
  | .group inner _ => inner.ungroup
  | tree => tree

/-- The value of an expression, or `none` if it is a chain that is cut short. -/
def chain (source : List Char) (scope : Scope) : Tree → Checked EvalFault (Option Value)
  | .literal value _ => return some (Scope.ofLiteral value)
  | .name region => do
    let name := String.ofList (← region.slice? source)
    match scope.lookup? name with
    | some value => return some value
    | none => throw ⟨.unbound name, region⟩
  | .member receiver name optional region => do
    match ← chain source scope receiver with
    | none => return none
    | some value =>
      -- A chain that is cut short takes no slice of the names behind the cut.
      if optional && value.isNullish then return none
      else
        let key := String.ofList (← name.slice? source)
        return some (← unsliced (Scope.read value key region))
  | .index receiver index optional region => do
    match ← chain source scope receiver with
    | none => return none
    | some value =>
      if optional && value.isNullish then return none
      else
        let key := (← chain source scope index).getD .undefined
        return some (← unsliced (Scope.read value key.text region))
  | .unary operator operand _ =>
    match operator, operand.ungroup with
    | .typeof, .name region => do
      let name := String.ofList (← region.slice? source)
      return some (operator.apply ((scope.lookup? name).getD .undefined))
    | _, _ => do
      return some (operator.apply ((← chain source scope operand).getD .undefined))
  | .binary operator left right _ => do
    let left := (← chain source scope left).getD .undefined
    if operator.decides left then return some left
    else
      let right := (← chain source scope right).getD .undefined
      return some (operator.apply left right)
  | .conditional test yes no _ => do
    let test := (← chain source scope test).getD .undefined
    if test.isTruthy then return some ((← chain source scope yes).getD .undefined)
    else return some ((← chain source scope no).getD .undefined)
  | .group inner _ => do
    return some ((← chain source scope inner).getD .undefined)

/-- The value of an expression. -/
def evaluate (source : List Char) (scope : Scope) (tree : Tree) : Checked EvalFault Value := do
  return (← chain source scope tree).getD .undefined

/-- The output of a segment. -/
def Segment.text (source : List Char) (scope : Scope) : Segment → Checked EvalFault (List Char)
  | .literal region => region.slice? source
  | .marker tree _ => do
    return (← evaluate source scope tree).text.toList

/-- A segment as it stands inside a template literal. -/
def Segment.sourceChars (source : List Char) : Segment → Option (List Char)
  | .literal region => (region.slice? source).map escapeLiteral
  | .marker _ region => region.slice? source

/-! ## Templates -/

/-- A template that can be rendered, by the regions of its text. -/
structure Template where
  /-- The text that the template was read from. -/
  source : String
  /-- The name of the template in reports. -/
  name : Option String
  /-- The names that its expressions may use. -/
  parameters : Parameters
  /-- The segments of its text. -/
  segments : List Segment

/-- What is reported of a fault in a text, without its place. -/
def reportSyntax (fault : SyntaxFault) : Diagnostic where
  kind := .malformed
  reason := fault.cause.reason
  help := fault.cause.help

/-- What is reported of a fault in an expression, without its place. -/
def reportEvaluation (parameters : Parameters) (fault : EvalFault) : Diagnostic where
  kind := .reference
  reason := fault.cause.reason
  help := fault.cause.help parameters

namespace Template

/-- The template with the given text, parameters and name. -/
def compile [Text.Alphabet] (source : String) (parameters : Parameters) (name : Option String) :
    Option (Except Diagnostic Template) :=
  match parameters.fault? with
  | some fault => some (.error (fault.diagnostic.inTemplate name))
  | none =>
    match (Offset.segments source.toList).run with
    | none => none
    | some (.error fault) => do
      return .error ((← pointing? (reportSyntax fault) source fault.region).inTemplate name)
    | some (.ok segments) => some (.ok ⟨source, name, parameters, segments⟩)

/-- The output of the segments of a template, or the first fault in them. -/
def output (t : Template) (store : Store) : Checked EvalFault (List Char) := do
  return (← t.segments.mapM (Segment.text t.source.toList ⟨t.parameters, store⟩)).flatten

/-- The output of a template. -/
def render (t : Template) (store : Store) : Option (Except Diagnostic String) :=
  match (t.output store).run with
  | none => none
  | some (.ok text) => some (.ok (String.ofList text))
  | some (.error fault) => do
    let d ← pointing? (reportEvaluation t.parameters fault) t.source fault.region
    return .error (d.inTemplate t.name)

/-- The text of the function that a template is. -/
def sourceText (t : Template) : Option String := do
  let chars ← t.segments.mapM (Segment.sourceChars t.source.toList)
  return TemplateLiteral.Template.opening t.parameters ++ String.ofList chars.flatten ++
    TemplateLiteral.Template.closing

end Template

/-- The template with the given text, and with the given names declared. -/
def compile [Text.Alphabet] (engine : Engine) (text : String) (names : List String) :
    Option (Except Diagnostic Template) :=
  match engine.binding with
  | .destructure => Template.compile text (.each names) engine.name
  | .single binding =>
    if names.isEmpty then
      Template.compile text (.whole binding) engine.name
    else
      some (.error ((ParameterFault.alreadyBound binding).diagnostic.inTemplate engine.name))

/-! ## What is evaluated with slices -/

section Evaluation

variable {source : List Char} {tree : Tree} {e : Expr}

/-- The two do the same, and a fault is at a region that fits. -/
abbrev Evaluates {α β : Type} (source : List Char) (r : α → β → Prop) :
    Checked EvalFault α → Except EvalFault β → Prop :=
  Agrees (fun fault => Fits source fault.region) r

theorem Denotes.ungroup (h : Denotes source tree e) : Denotes source tree.ungroup e.ungroup := by
  induction h with
  | group _ _ ih => exact ih
  | literal h => exact .literal h
  | name h hslice => exact .name h hslice
  | member h hreceiver hslice => exact .member h hreceiver hslice
  | index h hreceiver hindex => exact .index h hreceiver hindex
  | unary h hoperand => exact .unary h hoperand
  | binary h hleft hright => exact .binary h hleft hright
  | conditional h htest hyes hno => exact .conditional h htest hyes hno

theorem read_agrees {region : Region} (value : Value) (key : String) (h : Fits source region) :
    Evaluates source Eq (unsliced (Scope.read value key region)) (Scope.read value key region) := by
  unfold Scope.read
  split
  · exact .error h
  · exact .ok rfl

/-- An expression by regions has the value of the expression, or the same fault. -/
theorem chain_agrees (scope : Scope) (h : Denotes source tree e) :
    Evaluates source Eq (chain source scope tree) (scope.chain e) := by
  induction h with
  | literal => exact .ok rfl
  | @name text _ hfits hslice =>
    rw [chain, Scope.chain, lift_bind hslice]
    dsimp only
    cases scope.lookup? (String.ofList text) with
    | some value => exact .ok rfl
    | none => exact .error hfits
  | member hfits _ hslice ih =>
    refine ih.bind ?_
    rintro value _ rfl
    cases value with
    | none => exact .ok rfl
    | some value =>
      dsimp only
      split
      · exact .ok rfl
      · rw [lift_bind hslice]
        refine (read_agrees value _ hfits).bind ?_
        rintro _ _ rfl
        exact .ok rfl
  | index hfits _ _ ihReceiver ihIndex =>
    refine ihReceiver.bind ?_
    rintro value _ rfl
    cases value with
    | none => exact .ok rfl
    | some value =>
      dsimp only
      split
      · exact .ok rfl
      · refine ihIndex.bind ?_
        rintro key _ rfl
        refine (read_agrees value _ hfits).bind ?_
        rintro _ _ rfl
        exact .ok rfl
  | @unary op operand operand' _ hfits hoperand ih =>
    have hvalue : Evaluates source Eq
        (do return some (op.apply ((← chain source scope operand).getD .undefined)))
        (do return some (op.apply ((← scope.chain operand').getD .undefined))) := by
      refine ih.bind ?_
      rintro value _ rfl
      exact .ok rfl
    -- The type of a name is asked for without evaluating the name.
    have hungroup := hoperand.ungroup
    unfold chain Scope.chain
    generalize operand.ungroup = inner at hungroup ⊢
    generalize operand'.ungroup = inner' at hungroup ⊢
    cases op with
    | typeof =>
      cases hungroup with
      | name _ hslice =>
        dsimp only
        rw [lift_bind hslice]
        exact .ok rfl
      | _ => exact hvalue
    | _ => exact hvalue
  | binary hfits _ _ ihLeft ihRight =>
    refine ihLeft.bind ?_
    rintro left _ rfl
    dsimp only
    split
    · exact .ok rfl
    · refine ihRight.bind ?_
      rintro right _ rfl
      exact .ok rfl
  | conditional hfits _ _ _ ihTest ihYes ihNo =>
    refine ihTest.bind ?_
    rintro test _ rfl
    dsimp only
    split
    · refine ihYes.bind ?_
      rintro yes _ rfl
      exact .ok rfl
    · refine ihNo.bind ?_
      rintro no _ rfl
      exact .ok rfl
  | group hfits _ ih =>
    refine ih.bind ?_
    rintro value _ rfl
    exact .ok rfl

theorem evaluate_agrees (scope : Scope) (h : Denotes source tree e) :
    Evaluates source Eq (evaluate source scope tree) (scope.evaluate e) := by
  refine (chain_agrees scope h).bind ?_
  rintro value _ rfl
  exact .ok rfl

end Evaluation

/-! ## What is compiled and rendered with slices -/

section Templates

variable {source : List Char}

theorem Segment.text_agrees {segment : Segment} {segment' : TemplateLiteral.Segment} (scope : Scope)
    (h : IsSegment source segment segment') :
    Evaluates source Eq (segment.text source scope) (segment'.text scope) := by
  cases h with
  | literal hslice =>
    rw [Segment.text, TemplateLiteral.Segment.text, hslice]
    exact .ok rfl
  | marker _ htree =>
    refine (evaluate_agrees scope htree).bind ?_
    rintro value _ rfl
    exact .ok rfl

theorem Segment.sourceChars_eq {segment : Segment} {segment' : TemplateLiteral.Segment}
    (h : IsSegment source segment segment') :
    segment.sourceChars source = some segment'.sourceChars := by
  cases h with
  | literal hslice => exact congrArg (Option.map escapeLiteral) hslice
  | marker hslice => exact hslice

/-- The segments of the template have the texts and the expressions of another, and all else is the
same. -/
inductive IsTemplate : Template → TemplateLiteral.Template → Prop where
  | mk {source : String} {name : Option String} {parameters : Parameters}
      {segments : List Segment} {segments' : List TemplateLiteral.Segment} :
      List.Forall₂ (IsSegment source.toList) segments segments' →
      IsTemplate ⟨source, name, parameters, segments⟩ ⟨source, name, parameters, segments'⟩

variable {t : Template} {t' : TemplateLiteral.Template}

theorem output_agrees (h : IsTemplate t t') (store : Store) :
    Evaluates t'.source.toList Eq (t.output store) (t'.output store) := by
  cases h with
  | @mk source _ parameters _ _ hsegments =>
  have htexts : Evaluates source.toList (List.Forall₂ Eq) _ _ :=
    Agrees.mapM hsegments fun _ _ h => Segment.text_agrees ⟨parameters, store⟩ h
  refine htexts.bind fun texts texts' hsame => ?_
  rw [List.forall₂_eq_eq_eq] at hsame
  subst hsame
  exact .ok rfl

/-- A template by regions is rendered like the template, and reports the same. -/
theorem render_eq (h : IsTemplate t t') (store : Store) :
    t.render store = some (t'.render store) := by
  have houtput := output_agrees h store
  cases h with
  | @mk source name parameters =>
  unfold Template.render TemplateLiteral.Template.render
  generalize Template.output _ store = output at houtput ⊢
  generalize TemplateLiteral.Template.output _ store = output' at houtput ⊢
  cases houtput with
  | ok hsame =>
    subst hsame
    rfl
  | @error fault hfits =>
    have hreport := pointing?_eq (reportEvaluation parameters fault) hfits
    change (pointing? _ _ _).bind _ = _
    rw [hreport]
    rfl

theorem mapM_eq_some {α β γ : Type} {r : α → β → Prop} {f : α → Option γ} {g : β → γ}
    {xs : List α} {ys : List β} (h : List.Forall₂ r xs ys) (hfg : ∀ x y, r x y → f x = some (g y)) :
    xs.mapM f = some (ys.map g) := by
  induction h with
  | nil => rfl
  | cons hxy _ ih =>
    rw [List.mapM_cons, hfg _ _ hxy, ih]
    rfl

theorem sourceText_eq (h : IsTemplate t t') : t.sourceText = some t'.sourceText := by
  cases h with
  | mk hsegments =>
  unfold Template.sourceText TemplateLiteral.Template.sourceText
  rw [mapM_eq_some hsegments fun _ _ => Segment.sourceChars_eq]
  rfl

/-- A text is compiled by regions as it is compiled, and what is reported is the same. -/
theorem Template.compile_eq [Text.Alphabet] (source : String) (parameters : Parameters)
    (name : Option String) :
    (∃ d, Template.compile source parameters name = some (.error d) ∧
      TemplateLiteral.Template.compile source parameters name = .error d) ∨
    ∃ t t', Template.compile source parameters name = some (.ok t) ∧
      TemplateLiteral.Template.compile source parameters name = .ok t' ∧ t'.source = source ∧
      IsTemplate t t' := by
  have hsegments := segments_agrees source.toList
  unfold Template.compile TemplateLiteral.Template.compile
  cases parameters.fault? with
  | some fault => exact .inl ⟨_, rfl, rfl⟩
  | none =>
    dsimp only
    generalize Offset.segments source.toList = found at hsegments ⊢
    generalize TemplateLiteral.Segment.ofText source.toList = found' at hsegments ⊢
    cases hsegments with
    | ok hsegments => exact .inr ⟨_, _, rfl, rfl, rfl, .mk hsegments⟩
    | @error fault hfits =>
      have hreport := pointing?_eq (reportSyntax fault) hfits
      refine .inl ⟨_, ?_, rfl⟩
      change (pointing? _ _ _).bind _ = _
      rw [hreport]
      rfl

end Templates

end Offset

/-- No slice fails and no difference is negative, whatever the text, the names and the store. A text
that is compiled, rendered and written as a function by byte offsets gives what it gives without
them, a report included. What is reported is at a region of the text that can be sliced. -/
theorem Engine.compile_slices [Text.Alphabet] (engine : Engine) (text : String)
    (names : List String) :
    (∀ fault, Segment.ofText text.toList = .error fault →
      (fault.region.slice? text.toList).isSome) ∧
    ((∃ d, Offset.compile engine text names = some (.error d) ∧
        engine.compile text names = .error d) ∨
      ∃ t t', Offset.compile engine text names = some (.ok t) ∧
        engine.compile text names = .ok t' ∧
        t.sourceText = some t'.sourceText ∧
        ∀ store, t.render store = some (t'.render store) ∧
          ∀ fault, t'.output store = .error fault → (fault.region.slice? text.toList).isSome) := by
  refine ⟨fun fault hfault => ?_, ?_⟩
  · exact ((Offset.segments_agrees text.toList).of_eq_error hfault).isSome_slice?
  have htemplate : ∀ parameters,
      (∃ d, Offset.Template.compile text parameters engine.name = some (.error d) ∧
        Template.compile text parameters engine.name = .error d) ∨
      ∃ t t', Offset.Template.compile text parameters engine.name = some (.ok t) ∧
        Template.compile text parameters engine.name = .ok t' ∧
        t.sourceText = some t'.sourceText ∧
        ∀ store, t.render store = some (t'.render store) ∧
          ∀ fault, t'.output store = .error fault → (fault.region.slice? text.toList).isSome := by
    intro parameters
    rcases Offset.Template.compile_eq text parameters engine.name with
      herror | ⟨t, t', ht, ht', hsource, h⟩
    · exact .inl herror
    · refine .inr ⟨t, t', ht, ht', Offset.sourceText_eq h, fun store =>
        ⟨Offset.render_eq h store, fun fault hfault => ?_⟩⟩
      rw [← hsource]
      exact ((Offset.output_agrees h store).of_eq_error hfault).isSome_slice?
  -- The two ways to bind values differ in the parameters of the template.
  unfold Offset.compile Engine.compile
  cases engine.binding with
  | destructure => exact htemplate (.each names)
  | single binding =>
    dsimp only
    split
    · exact htemplate (.whole binding)
    · exact .inl ⟨_, rfl, rfl⟩

/-- A name that stands for nothing, behind a character of two bytes. -/
theorem Engine.compile_slices_unbound : ∃ t t' fault,
    Offset.compile {} "é$\x7ba ?? b\x7d" ["a"] = some (.ok t) ∧
    ({} : Engine).compile "é$\x7ba ?? b\x7d" ["a"] = .ok t' ∧
    t'.output (.ofFields []) = .error fault ∧ fault.region = ⟨9, 10⟩ ∧
    t.render (.ofFields []) = some (t'.render (.ofFields [])) ∧
    (fault.region.slice? "é$\x7ba ?? b\x7d".toList).isSome := by
  have hcompile : ∃ t', ({} : Engine).compile "é$\x7ba ?? b\x7d" ["a"] = .ok t' ∧
      ∃ fault, t'.output (.ofFields []) = .error fault ∧ fault.region = ⟨9, 10⟩ :=
    ⟨_, by cbv, _, by cbv, rfl⟩
  obtain ⟨t', ht', fault, hfault, hregion⟩ := hcompile
  obtain ⟨-, ⟨d, -, hd⟩ | ⟨t, _, ht, hsame, -, hrender⟩⟩ :=
    Engine.compile_slices {} "é$\x7ba ?? b\x7d" ["a"]
  · cases ht'.symm.trans hd
  · obtain rfl := Except.ok.inj (ht'.symm.trans hsame)
    obtain ⟨hoffset, hslices⟩ := hrender (.ofFields [])
    exact ⟨t, t', fault, ht, ht', hfault, hregion, hoffset, hslices fault hfault⟩

end TemplateLiteral
