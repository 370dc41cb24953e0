import TemplateLiteral.Engine
import TemplateLiteral.Proofs.Template.Interpolation
import TemplateLiteral.Proofs.Template.SourceText
import TemplateLiteral.Proofs.Template.Unplaced

/-!
# Templates with the same source text

The source text of a template is the text of a function, and two templates with the same one do the
same. The names and the one name for all values are read off what stands before the literal, and the
literal is read as the characters and the markers of the template; neither tells where in the
template they stood, and this changes nothing.

There is one exception. Values may be bound to the name that stands for them where no names are
declared. The source text is then the same as that of a template without names, but only in the
first of the two is the name bound.

## Main definitions

* `SourceItem.atom?`: what a character or a marker in a literal spells

## Main results

* `Template.opening_inj`: what stands before the literal tells the parameters
* `Reads.atom?_items`: what stands in the literal tells what is spelled
* `Template.render_of_sourceText`: templates with the same source text
-/

namespace TemplateLiteral

/-- Two texts are cut at the same place by a character that occurs in neither before the cut. -/
theorem append_cons_inj_of_first {α : Type} {c : α} {xs ys as bs : List α} (hxs : c ∉ xs)
    (hys : c ∉ ys) (h : xs ++ c :: as = ys ++ c :: bs) : xs = ys ∧ as = bs := by
  rcases List.append_eq_append_iff.1 h with ⟨more, rfl, hmore⟩ | ⟨more, rfl, hmore⟩
  · cases more with
    | nil => exact ⟨(List.append_nil xs).symm, (List.cons.inj hmore).2⟩
    | cons d more =>
      obtain ⟨rfl, -⟩ := List.cons.inj hmore
      exact absurd (List.mem_append_right xs List.mem_cons_self) hys
  · cases more with
    | nil => exact ⟨List.append_nil ys, (List.cons.inj hmore).2.symm⟩
    | cons d more =>
      obtain ⟨rfl, -⟩ := List.cons.inj hmore
      exact absurd (List.mem_append_right ys List.mem_cons_self) hxs

/-! ## What stands before the literal -/

section Names

theorem toList_intercalate_cons (name next : String) (names : List String) :
    (", ".intercalate (name :: next :: names)).toList =
      name.toList ++ ',' :: ' ' :: (", ".intercalate (next :: names)).toList := by
  rw [String.intercalate_cons_cons, String.toList_append, String.toList_append, List.append_assoc]
  rfl

variable [Text.Alphabet]

theorem ne_nil_of_isIdentifier {name : String} (h : isIdentifier name) : name.toList ≠ [] := by
  obtain ⟨c, more, heq, -⟩ := exists_cons_of_isIdentifier h
  rw [heq]
  exact List.cons_ne_nil c more

theorem intercalate_ne_nil {name : String} {names : List String} (h : isIdentifier name) :
    (", ".intercalate (name :: names)).toList ≠ (", ".intercalate []).toList := by
  cases names with
  | nil =>
    rw [String.intercalate_singleton]
    exact ne_nil_of_isIdentifier h
  | cons next names =>
    rw [toList_intercalate_cons]
    exact List.append_ne_nil_of_left_ne_nil (ne_nil_of_isIdentifier h) _

/-- Names are told from their list with commas between them. -/
theorem intercalate_inj {names names' : List String} (h : ∀ name ∈ names, isIdentifier name)
    (h' : ∀ name ∈ names', isIdentifier name)
    (heq : (", ".intercalate names).toList = (", ".intercalate names').toList) :
    names = names' := by
  have hcomma : ∀ {name}, isIdentifier name → ',' ∉ name.toList :=
    fun hname => not_mem_of_isIdentifier hname
      (Text.isNamePart_eq_false_of_isPunctuation (by decide))
  -- Of each list the first name goes up to the first comma, or to the end.
  induction names generalizing names' with
  | nil =>
    cases names' with
    | nil => rfl
    | cons name' names' => exact absurd heq.symm (intercalate_ne_nil (h' name' List.mem_cons_self))
  | cons name names ih =>
    obtain ⟨hname, hnames⟩ := List.forall_mem_cons.1 h
    cases names' with
    | nil => exact absurd heq (intercalate_ne_nil hname)
    | cons name' names' =>
      obtain ⟨hname', hnames'⟩ := List.forall_mem_cons.1 h'
      cases names with
      | nil =>
        cases names' with
        | nil =>
          rw [String.intercalate_singleton, String.intercalate_singleton] at heq
          rw [String.toList_inj.1 heq]
        | cons next' names' =>
          rw [String.intercalate_singleton, toList_intercalate_cons] at heq
          exact absurd (heq ▸ List.mem_append_right _ List.mem_cons_self) (hcomma hname)
      | cons next names =>
        cases names' with
        | nil =>
          rw [String.intercalate_singleton, toList_intercalate_cons] at heq
          exact absurd (heq ▸ List.mem_append_right _ List.mem_cons_self) (hcomma hname')
        | cons next' names' =>
          rw [toList_intercalate_cons, toList_intercalate_cons] at heq
          obtain ⟨hsame, hrest⟩ := append_cons_inj_of_first (hcomma hname) (hcomma hname') heq
          rw [String.toList_inj.1 hsame, ih hnames hnames' (List.cons.inj hrest).2]

end Names

namespace Template

variable {parameters parameters' : Parameters}

theorem toList_opening_append (parameters : Parameters) (rest : List Char) :
    (opening parameters).toList ++ rest = "function anonymous(".toList ++
      (parameters.valueName.toList ++ ')' :: (" \x7b\n".toList ++
        ((declaration parameters).toList ++ ("  return `".toList ++ rest)))) := by
  have hopening : opening parameters = "function anonymous(" ++ parameters.valueName ++
      ") \x7b\n" ++ declaration parameters ++ "  return `" := rfl
  rw [hopening, String.toList_append, String.toList_append, String.toList_append,
    String.toList_append]
  simp only [List.append_assoc]
  rfl

theorem isIdentifier_valueName [Text.Alphabet] (h : parameters.fault? = none) :
    isIdentifier parameters.valueName := by
  unfold Parameters.valueName
  cases hbinding : parameters.binding? with
  | none => exact isIdentifier_of_isAlpha rfl rfl (by decide)
  | some name => exact (Parameters.isIdentifier_of_fault? h).2 name hbinding

theorem toList_declaration (h : parameters.declared ≠ []) (rest : List Char) :
    (declaration parameters).toList ++ rest = "  const \x7b ".toList ++
      ((", ".intercalate parameters.declared).toList ++ (" \x7d = values;\n".toList ++ rest)) := by
  unfold declaration
  split
  next hnil => exact absurd hnil h
  next =>
    rw [String.toList_append, String.toList_append]
    simp only [List.append_assoc]

theorem toList_declaration_nil (h : parameters.declared = []) :
    (declaration parameters).toList = [] := by
  unfold declaration
  rw [h]
  rfl

theorem return_append_ne (xs ys : List Char) :
    "  return `".toList ++ xs ≠ "  const \x7b ".toList ++ ys := by
  intro h
  have hletter : some 'r' = some 'c' := congrArg (·[2]?) h
  cases hletter

/-- The declared names are told from the line that declares them, if there is one. -/
theorem declared_inj [Text.Alphabet] (h : parameters.fault? = none) (h' : parameters'.fault? = none)
    {rest : List Char}
    (heq : (declaration parameters).toList ++ ("  return `".toList ++ rest) =
      (declaration parameters').toList ++ ("  return `".toList ++ rest)) :
    parameters.declared = parameters'.declared := by
  by_cases hnil : parameters.declared = [] <;> by_cases hnil' : parameters'.declared = []
  · rw [hnil, hnil']
  · rw [toList_declaration_nil hnil, toList_declaration hnil', List.nil_append] at heq
    exact absurd heq (return_append_ne _ _)
  · rw [toList_declaration hnil, toList_declaration_nil hnil', List.nil_append] at heq
    exact absurd heq.symm (return_append_ne _ _)
  · rw [toList_declaration hnil, toList_declaration hnil'] at heq
    exact intercalate_inj (Parameters.isIdentifier_of_fault? h).1
      (Parameters.isIdentifier_of_fault? h').1
      (List.append_cancel_right (List.append_cancel_left heq))

theorem parenthesis_not_mem [Text.Alphabet] (h : parameters.fault? = none) :
    ')' ∉ parameters.valueName.toList :=
  not_mem_of_isIdentifier (isIdentifier_valueName h)
    (Text.isNamePart_eq_false_of_isPunctuation (by decide))

/-- What stands before the literal tells the name for all values and the declared names. -/
theorem opening_inj [Text.Alphabet] (h : parameters.fault? = none) (h' : parameters'.fault? = none)
    (heq : opening parameters = opening parameters') :
    parameters.valueName = parameters'.valueName ∧ parameters.declared = parameters'.declared := by
  have hchars : (opening parameters).toList ++ [] = (opening parameters').toList ++ [] := by
    rw [heq]
  rw [toList_opening_append, toList_opening_append] at hchars
  obtain ⟨hname, hrest⟩ := append_cons_inj_of_first (parenthesis_not_mem h)
    (parenthesis_not_mem h') (List.append_cancel_left hchars)
  exact ⟨String.toList_inj.1 hname, declared_inj h h' (List.append_cancel_left hrest)⟩

/-- One of the two declares no names, and the other binds all values to the name that stands for
them in the source text of the first. -/
def SharesName (parameters parameters' : Parameters) : Prop :=
  parameters = .each [] ∧ parameters' = .whole Parameters.valuesName ∨
    parameters = .whole Parameters.valuesName ∧ parameters' = .each []

/-- The parameters are told from what stands before the literal, with one exception. -/
theorem eq_or_sharesName (hname : parameters.valueName = parameters'.valueName)
    (hdeclared : parameters.declared = parameters'.declared) :
    parameters = parameters' ∨ SharesName parameters parameters' := by
  cases parameters with
  | each names =>
    cases parameters' with
    | each names' => exact .inl (congrArg Parameters.each hdeclared)
    | whole name' =>
      obtain rfl : names = [] := hdeclared
      obtain rfl : Parameters.valuesName = name' := hname
      exact .inr (.inl ⟨rfl, rfl⟩)
  | whole name =>
    cases parameters' with
    | each names' =>
      obtain rfl : [] = names' := hdeclared
      obtain rfl : name = Parameters.valuesName := hname
      exact .inr (.inr ⟨rfl, rfl⟩)
    | whole name' => exact .inl (congrArg Parameters.whole hname)

end Template

/-! ## What stands in the literal -/

/-- What a character or a marker in a template literal spells, without the places of the marker. -/
def SourceItem.atom? [Text.Alphabet] : SourceItem → Option Atom
  | .char c => some (.char c)
  | .marker text =>
    match Expr.ofTokens (scan 0 (text.drop 2)).tokens with
    | .ok e => some (.value (e.relocate nowhere))
    | .error _ => none

/-- A marker spells its expression wherever it stands. -/
theorem SourceItem.atom?_marker [Text.Alphabet] {start : Nat} {body : List Char}
    {tokens : TokenStream} {e : Expr} (h : Encloses start body tokens)
    (he : Expr.ofTokens tokens = .ok e) :
    atom? (.marker ('$' :: '{' :: body)) = some (.value (e.relocate nowhere)) := by
  have hzero := h.relocate (shifts_sub start)
  have hscan := hzero.2 []
  rw [Nat.sub_self, List.append_nil] at hscan
  have hmoved : Expr.ofTokens (tokens.relocate (· - start)) = .ok (e.relocate (· - start)) :=
    Expr.ofTokens_relocate (fun _ _ hle => Nat.sub_le_sub_right hle start) he
  have hbody : ('$' :: '{' :: body).drop 2 = body := rfl
  rw [atom?, hbody, hscan, hmoved]
  exact congrArg (fun e => some (Atom.value e)) (e.relocate_nowhere _)

/-- What stands in the literal of a template tells what the template spells, but for places. -/
theorem Reads.atom?_items [Text.Alphabet] {start : Nat} {text : List Char} {segments : List Segment}
    (h : Reads start text segments) :
    (segments.flatMap Segment.items).map SourceItem.atom? =
      (segments.flatMap Segment.atoms).map (some ∘ Atom.relocate nowhere) := by
  have hsegment : ∀ s ∈ segments, s.items.map SourceItem.atom? =
      s.atoms.map (some ∘ Atom.relocate nowhere) := by
    intro s hs
    cases s with
    | literal text region =>
      rw [Segment.items, Segment.atoms, List.map_map, List.map_map]
      rfl
    | marker e chars region =>
      obtain ⟨_, body, _, tokens, -, rfl, -, hbody, he⟩ := h.closes e chars region hs
      exact congrArg (· :: []) (SourceItem.atom?_marker hbody he)
  rw [List.map_flatMap, List.map_flatMap]
  exact List.flatMap_congr hsegment

/-! ## Templates with the same source text -/

namespace Template

variable {source source' : String} {parameters parameters' : Parameters}
  {name name' : Option String} {t t' : Template}

/-- The first backtick of a source text opens the literal. -/
theorem exists_toList_sourceText [Text.Alphabet] (h : t.parameters.fault? = none) : ∃ head,
    (opening t.parameters).toList = head ++ ['`'] ∧ '`' ∉ head ∧
      t.sourceText.toList = head ++ '`' :: (t.literalChars ++ closing.toList) := by
  obtain ⟨before, hopening, hbacktick⟩ := toList_opening h
  have hreturn : "  return `".toList = "  return ".toList ++ ['`'] := rfl
  rw [hreturn, ← List.append_assoc] at hopening
  refine ⟨_, hopening, ?_, ?_⟩
  · rw [List.mem_append, not_or]
    exact ⟨hbacktick, by decide⟩
  · have hliteral : (String.ofList t.literalChars).toList = t.literalChars := String.toList_ofList
    rw [sourceText, String.toList_append, String.toList_append, hopening, hliteral,
      List.append_assoc, List.append_assoc]
    rfl

/-- Templates with the same source text have the same in front of the literal and in it. -/
theorem eq_of_sourceText [Text.Alphabet] (h : t.parameters.fault? = none)
    (h' : t'.parameters.fault? = none) (htext : t.sourceText = t'.sourceText) :
    opening t.parameters = opening t'.parameters ∧ t.literalChars = t'.literalChars := by
  obtain ⟨head, hopening, hfirst, htoList⟩ := exists_toList_sourceText h
  obtain ⟨head', hopening', hfirst', htoList'⟩ := exists_toList_sourceText h'
  have hsame := congrArg String.toList htext
  rw [htoList, htoList'] at hsame
  obtain ⟨rfl, hliteral⟩ := append_cons_inj_of_first hfirst hfirst' hsame
  refine ⟨String.toList_inj.1 ?_, List.append_cancel_right hliteral⟩
  rw [hopening, hopening']

/-- Templates with the same source text spell the same, but for places. -/
theorem atoms_eq_of_literalChars [Text.Alphabet] (h : compile source parameters name = .ok t)
    (h' : compile source' parameters' name' = .ok t')
    (hliteral : t.literalChars = t'.literalChars) :
    (t.segments.flatMap Segment.atoms).map (Atom.relocate nowhere) =
      (t'.segments.flatMap Segment.atoms).map (Atom.relocate nowhere) := by
  have hreads := reads_of_compile h
  have hreads' := reads_of_compile h'
  have hitems : t.segments.flatMap Segment.items = t'.segments.flatMap Segment.items := by
    have hread := hreads.readLiteral_sourceChars []
    rw [← literalChars, hliteral, literalChars, hreads'.readLiteral_sourceChars []] at hread
    exact (Prod.mk.inj (Option.some.inj hread)).1.symm
  have hatoms := congrArg (List.map SourceItem.atom?) hitems
  rw [hreads.atom?_items, hreads'.atom?_items, ← List.map_map, ← List.map_map] at hatoms
  exact List.map_injective_iff.2 (Option.some_injective _) hatoms

/-- Only the name for all values tells the scope of a template without names from one in which this
name is bound. -/
theorem agreeOn_of_sharesName (h : SharesName parameters parameters') {names : List String}
    (hnames : Parameters.valuesName ∉ names) (store : Store) :
    Scope.AgreeOn names ⟨parameters, store⟩ ⟨parameters', store⟩ := by
  intro x hx
  have hne : x ≠ Parameters.valuesName := by
    rintro rfl
    exact hnames hx
  have heach : Scope.lookup? ⟨.each [], store⟩ x = global? x :=
    Scope.lookup?_each_of_not_mem List.not_mem_nil store
  have hwhole := Scope.lookup?_whole_of_ne hne store
  rcases h with ⟨rfl, rfl⟩ | ⟨rfl, rfl⟩
  · rw [heach, hwhole]
    exact Scope.global?_alike x
  · rw [heach, hwhole]
    exact Scope.global?_alike x

/-- Templates with the same source text are rendered as the same text or report the same, with every
store: whatever their texts, unless one declares no names, the other binds all values to the name
that stands for them in the source text of the first, and this name is looked up. -/
theorem render_of_sourceText [Text.Alphabet] (h : compile source parameters name = .ok t)
    (h' : compile source' parameters' name' = .ok t') (htext : t.sourceText = t'.sourceText)
    (hvalues : SharesName parameters parameters' → Parameters.valuesName ∉ mentioned source)
    (store : Store) :
    (∃ out, t.render store = .ok out ∧ t'.render store = .ok out) ∨
      ∃ d d', t.render store = .error d ∧ t'.render store = .error d' ∧
        d.kind = d'.kind ∧ d.reason = d'.reason := by
  obtain ⟨hfault, segments, hsegments, ht⟩ := compile_eq_ok_iff.1 h
  obtain ⟨hfault', segments', -, ht'⟩ := compile_eq_ok_iff.1 h'
  have hparameters : t.parameters = parameters := congrArg Template.parameters ht
  have hparameters' : t'.parameters = parameters' := congrArg Template.parameters ht'
  rw [← hparameters] at hfault
  rw [← hparameters'] at hfault'
  obtain ⟨hopening, hliteral⟩ := eq_of_sourceText hfault hfault' htext
  obtain ⟨hname, hdeclared⟩ := opening_inj hfault hfault' hopening
  have hatoms := atoms_eq_of_literalChars h h' hliteral
  rcases eq_or_sharesName hname hdeclared with hsame | hshares
  · exact render_of_nowhere hsame.symm hatoms store
  · -- The scopes differ in a name that is not looked up, so that the first may be changed for the
    -- second.
    rw [hparameters, hparameters'] at hshares
    have hagree : (t.scope store).AgreeOn (t.segments.flatMap Segment.names) (t'.scope store) := by
      rw [scope, scope, hparameters, hparameters', ht]
      refine agreeOn_of_sharesName hshares ?_ store
      have hfree := hvalues hshares
      rw [mentioned, hsegments] at hfree
      exact hfree
    apply render_of_sameCause
    rw [output_eq, output_eq, (shown_atoms_together hagree).eq]
    exact shown_of_nowhere _ hatoms

/-- The exception: the source texts are the same, but only in the second template is the name
bound. -/
theorem sourceText_values : ∃ t t', ({} : Engine).compile "$\x7bvalues\x7d" [] = .ok t ∧
    (({} : Engine).single "values").compile "$\x7bvalues\x7d" [] = .ok t' ∧
    t.sourceText = t'.sourceText ∧
    (∃ d, t.render .empty = .error d ∧ d.kind = .reference ∧
      d.reason = "values is not defined") ∧
    t'.render .empty = .ok "[object Object]" := by
  have hcompile : ∃ t t' fault, ({} : Engine).compile "$\x7bvalues\x7d" [] = .ok t ∧
      (({} : Engine).single "values").compile "$\x7bvalues\x7d" [] = .ok t' ∧
      t.sourceText = t'.sourceText ∧ t.output .empty = .error fault ∧
      fault.cause.reason = "values is not defined" ∧
      t'.render .empty = .ok "[object Object]" :=
    ⟨_, _, ⟨.unbound "values", ⟨2, 8⟩⟩, by cbv, by cbv, by rfl, by cbv, rfl, by cbv⟩
  obtain ⟨t, t', fault, ht, ht', htext, hfault, hcause, hout⟩ := hcompile
  obtain ⟨d, hd, hkind, hreason⟩ := render_of_output_eq_error hfault
  exact ⟨t, t', ht, ht', htext, ⟨d, hd, hkind, hreason.trans hcause⟩, hout⟩

set_option maxRecDepth 4000 in
/-- The same two ways to bind values, with a text that does not look at them as a whole. -/
theorem render_of_sourceText_typeof : ∃ t t',
    compile "`$\x7btypeof a\x7d\\$\x7b" (.each []) none = .ok t ∧
    compile "`$\x7btypeof a\x7d\\$\x7b" (.whole "values") (some "b") = .ok t' ∧
    t.sourceText = t'.sourceText ∧
    ∀ store, (∃ out, t.render store = .ok out ∧ t'.render store = .ok out) ∨
      ∃ d d', t.render store = .error d ∧ t'.render store = .error d' ∧
        d.kind = d'.kind ∧ d.reason = d'.reason := by
  have hcompile : ∃ t t', compile "`$\x7btypeof a\x7d\\$\x7b" (.each []) none = .ok t ∧
      compile "`$\x7btypeof a\x7d\\$\x7b" (.whole "values") (some "b") = .ok t' ∧
      t.sourceText = t'.sourceText := ⟨_, _, by cbv, by cbv, by rfl⟩
  have hmentioned : mentioned "`$\x7btypeof a\x7d\\$\x7b" = ["a"] := by
    rw [mentioned]
    cbv
  obtain ⟨t, t', ht, ht', htext⟩ := hcompile
  refine ⟨t, t', ht, ht', htext, render_of_sourceText ht ht' htext fun _ => ?_⟩
  rw [hmentioned]
  decide

end Template

end TemplateLiteral
