import TemplateLiteral.Engine
import TemplateLiteral.Proofs.Template.Names

/-!
# The order of keys

The order in which keys were inserted is not seen. A text that is rendered at once declares the keys
of its store as names, one after the other, and the first that is no name is reported. Which one
this is depends on the order, but whether there is one does not, since no key occurs twice, and the
reason is the same for all. Below that, objects whose keys are in another order are data that no
expression can tell apart.

## Main definitions

* `Data.Reordered`: the keys of objects are in another order, at any depth

## Main results

* `Data.Reordered.alike`: expressions cannot tell reordered data apart
* `Parameters.fault?_each_eq_none_iff`: which names can be declared together
* `Engine.run_reordered`: a text that is rendered at once
-/

namespace TemplateLiteral

/-! ## Data with keys in another order -/

namespace Data

/-- The two differ at most in the order of the keys of objects, at any depth. What is neither an
array nor an object is the same in both. -/
inductive Reordered : Data → Data → Prop where
  | same (data : Data) : Reordered data data
  /-- The items of an array stay in their order. -/
  | array {xs ys : List Data} : xs.length = ys.length →
      (∀ (i : Nat) (x y : Data), xs[i]? = some x → ys[i]? = some y → Reordered x y) →
      Reordered (.array xs) (.array ys)
  /-- The keys of an object may be in another order. -/
  | object {fs gs : List (String × Data)} : (Fields.keys fs).Perm (Fields.keys gs) →
      (∀ key v w, Fields.get? key fs = some v → Fields.get? key gs = some w → Reordered v w) →
      Reordered (.object fs) (.object gs)

theorem isSome_get?_of_perm {fs gs : List (String × Data)}
    (h : (Fields.keys fs).Perm (Fields.keys gs)) (key : String) :
    (Fields.get? key fs).isSome = (Fields.get? key gs).isSome := by
  rw [Bool.eq_iff_iff, Option.isSome_iff_ne_none, Option.isSome_iff_ne_none, ne_eq, ne_eq,
    Fields.get?_eq_none_iff, Fields.get?_eq_none_iff, h.mem_iff]

section Fields

variable {fs gs hs : List (String × Data)}

theorem keys_eq_of_forall₂ {r : Data → Data → Prop}
    (h : List.Forall₂ (fun f g => f.1 = g.1 ∧ r f.2 g.2) fs gs) :
    Fields.keys fs = Fields.keys gs := by
  induction h with
  | nil => rfl
  | cons h _ ih => exact congrArg₂ List.cons h.1 ih

theorem get?_of_forall₂ {r : Data → Data → Prop} {key : String} {v w : Data}
    (h : List.Forall₂ (fun f g => f.1 = g.1 ∧ r f.2 g.2) fs gs)
    (hv : Fields.get? key fs = some v) (hw : Fields.get? key gs = some w) : r v w := by
  induction h with
  | nil => cases hv
  | @cons f g _ _ h _ ih =>
    obtain ⟨k, x⟩ := f
    obtain ⟨l, y⟩ := g
    obtain ⟨rfl, hxy⟩ := h
    rw [Fields.get?] at hv hw
    split at hv
    next hkey =>
      rw [if_pos hkey] at hw
      exact Option.some.inj hv ▸ Option.some.inj hw ▸ hxy
    next hkey =>
      rw [if_neg hkey] at hw
      exact ih hv hw

/-- An object is reordered if the data under its keys are, and then its fields are put in another
order. -/
theorem Reordered.of_perm (hvalues : List.Forall₂ (fun f g => f.1 = g.1 ∧ Reordered f.2 g.2) fs gs)
    (hperm : gs.Perm hs) (hkeys : (Fields.keys gs).Nodup) :
    Reordered (.object fs) (.object hs) := by
  refine .object ?_ fun key v w hv hw => get?_of_forall₂ hvalues hv ?_
  · rw [keys_eq_of_forall₂ hvalues]
    exact hperm.map Prod.fst
  · rw [get?_eq_of_perm hkeys hperm, hw]

end Fields

/-- Expressions cannot tell reordered data apart. -/
theorem Reordered.alike {a b : Data} (h : Reordered a b) : Alike a b := by
  induction h with
  | same data => exact .refl data
  | array hlength _ ih => exact .array hlength ih
  | object hkeys _ ih => exact .object (isSome_get?_of_perm hkeys) ih

end Data

/-! ## Names that can be declared together -/

namespace Parameters

variable [Text.Alphabet]

theorem faultAfter_eq_none_iff {before names : List String} :
    faultAfter before names = none ↔ (∀ name ∈ names, isIdentifier name ∧ name ≠ valuesName) ∧
      names.Nodup ∧ ∀ name ∈ names, name ∉ before := by
  induction names generalizing before with
  | nil => simp [faultAfter]
  | cons name names ih =>
    have hsplit : faultAfter before (name :: names) = none ↔ isIdentifier name ∧
        name ≠ valuesName ∧ name ∉ before ∧ faultAfter (name :: before) names = none := by
      rw [faultAfter]
      split_ifs <;> simp_all
    rw [hsplit, ih]
    rw [List.forall_mem_cons, List.forall_mem_cons, List.nodup_cons]
    constructor
    · rintro ⟨hname, hvalues, hbefore, hnames, hnodup, hrest⟩
      refine ⟨⟨⟨hname, hvalues⟩, hnames⟩, ⟨fun hmem => ?_, hnodup⟩, hbefore, fun other hother => ?_⟩
      · exact hrest name hmem List.mem_cons_self
      · exact fun hmem => hrest other hother (List.mem_cons_of_mem name hmem)
    · rintro ⟨⟨⟨hname, hvalues⟩, hnames⟩, ⟨hmem, hnodup⟩, hbefore, hrest⟩
      refine ⟨hname, hvalues, hbefore, hnames, hnodup, fun other hother hseen => ?_⟩
      rcases List.mem_cons.1 hseen with rfl | hseen
      · exact hmem hother
      · exact hrest other hother hseen

/-- Names can be declared together if each is a name, none stands for all values, and none is
repeated. -/
theorem fault?_each_eq_none_iff {names : List String} : (each names).fault? = none ↔
    (∀ name ∈ names, isIdentifier name ∧ name ≠ valuesName) ∧ names.Nodup := by
  simp [fault?, faultAfter_eq_none_iff]

/-- Whether names can be declared together does not depend on their order. -/
theorem fault?_each_eq_none_of_perm {names names' : List String} (h : names.Perm names')
    (hnames : (each names).fault? = none) : (each names').fault? = none := by
  rw [fault?_each_eq_none_iff] at hnames ⊢
  exact ⟨fun name hname => hnames.1 name (h.mem_iff.2 hname), h.nodup_iff.1 hnames.2⟩

end Parameters

/-! ## Texts that are rendered at once -/

namespace Template

variable {source : String} {parameters parameters' : Parameters} {store store' : Store}

/-- Names that cannot be declared are reported for one reason. -/
theorem exists_compile_eq_error_of_fault [Text.Alphabet] (h : parameters.fault? ≠ none)
    (source : String) (name : Option String) : ∃ d, compile source parameters name = .error d ∧
      d.kind = .malformed ∧ d.reason = "invalid parameter name" := by
  obtain ⟨fault, hfault⟩ := Option.ne_none_iff_exists'.1 h
  rw [compile, hfault]
  exact ⟨_, rfl, Diagnostic.kind_inTemplate _ _, Diagnostic.reason_inTemplate _ _⟩

/-- A text makes the same of two stores in scopes that agree on all names, if both parameters can be
declared or neither can. -/
theorem compile_render_together [Text.Alphabet]
    (hfault : parameters.fault? = none ↔ parameters'.fault? = none)
    (hagree : ∀ names, Scope.AgreeOn names ⟨parameters, store⟩ ⟨parameters', store'⟩)
    (name : Option String) :
    (∃ out, (compile source parameters name >>= (·.render store)) = .ok out ∧
      (compile source parameters' name >>= (·.render store')) = .ok out) ∨
    ∃ d d', (compile source parameters name >>= (·.render store)) = .error d ∧
      (compile source parameters' name >>= (·.render store')) = .error d' ∧
      d.kind = d'.kind ∧ d.reason = d'.reason := by
  by_cases hparameters : parameters.fault? = none
  · have hparameters' := hfault.1 hparameters
    cases hsegments : Segment.ofText source.toList with
    | error fault =>
      obtain ⟨d, hd, hkind, hreason, -⟩ := exists_compile_eq_error hsegments hparameters name
      obtain ⟨d', hd', hkind', hreason', -⟩ := exists_compile_eq_error hsegments hparameters' name
      rw [hd, hd']
      exact .inr ⟨d, d', rfl, rfl, hkind.trans hkind'.symm, hreason.trans hreason'.symm⟩
    | ok segments =>
      rw [compile_eq_ok_iff.2 ⟨hparameters, segments, hsegments, rfl⟩,
        compile_eq_ok_iff.2 ⟨hparameters', segments, hsegments, rfl⟩]
      have htogether : Together Eq Eq (output ⟨source, name, parameters, segments⟩ store)
          (output ⟨source, name, parameters', segments⟩ store') := by
        rw [output_eq, output_eq]
        exact shown_atoms_together (hagree _)
      rcases render_together (by rfl) htogether with hsame | hfails
      · exact .inl hsame
      · obtain ⟨d, d', _, hd, hd', hkind, hreason, -⟩ := hfails
        exact .inr ⟨d, d', hd, hd', hkind, hreason⟩
  · obtain ⟨d, hd, hkind, hreason⟩ := exists_compile_eq_error_of_fault hparameters source name
    obtain ⟨d', hd', hkind', hreason'⟩ :=
      exists_compile_eq_error_of_fault (mt hfault.2 hparameters) source name
    rw [hd, hd']
    exact .inr ⟨d, d', rfl, rfl, hkind.trans hkind'.symm, hreason.trans hreason'.symm⟩

end Template

section Stores

variable {store store' : Store}

theorem Data.Reordered.perm_keys
    (h : Data.Reordered (.object store.fields) (.object store'.fields)) :
    store.keys.Perm store'.keys := by
  generalize hfields : store.fields = fields, hfields' : store'.fields = fields' at h
  rw [Store.keys, Store.keys, hfields, hfields']
  cases h with
  | same => exact .refl _
  | object hkeys => exact hkeys

/-- A key has data in one store that is alike to what it has in the other, or none in both. -/
theorem Data.Alike.get? (h : Data.Alike (.object store.fields) (.object store'.fields))
    (key : String) : Option.Rel Data.Alike (store.get? key) (store'.get? key) := by
  rw [Store.get?, Store.get?]
  generalize store.fields = fields, store'.fields = fields' at h
  cases h with
  | number h => cases h
  | object hkeys hvalues =>
    have hsome := hkeys key
    cases hv : Fields.get? key fields <;> cases hw : Fields.get? key fields' <;>
      rw [hv, hw] at hsome
    · exact .none
    · cases hsome
    · cases hsome
    · exact .some (hvalues key _ _ hv hw)

/-- Stores that are alike are alike as the value of the name that is bound to all values. -/
theorem Scope.agreeOn_whole (h : Data.Alike (.object store.fields) (.object store'.fields))
    (binding : String) (names : List String) :
    AgreeOn names ⟨.whole binding, store⟩ ⟨.whole binding, store'⟩ := by
  intro x _
  unfold lookup? declared?
  by_cases hx : x = binding
  · simp only [if_pos hx, Option.some_or]
    exact .some (.object [] h)
  · simp only [if_neg hx, Option.none_or]
    exact global?_alike x

end Stores

/-- A text that is rendered at once does not see the order of keys: for stores with the same keys in
whatever order, and with data under them that is the same up to the order of keys in it, it has the
same output, or reports that are of one kind and have one reason. -/
theorem Engine.run_reordered [Text.Alphabet] (engine : Engine) (text : String)
    {store store' : Store} (h : Data.Reordered (.object store.fields) (.object store'.fields)) :
    (∃ out, engine.run text store = .ok out ∧ engine.run text store' = .ok out) ∨
    ∃ d d', engine.run text store = .error d ∧ engine.run text store' = .error d' ∧
      d.kind = d'.kind ∧ d.reason = d'.reason := by
  have hkeys := h.perm_keys
  unfold run namesFor compile
  cases engine.binding with
  | destructure =>
    refine Template.compile_render_together ⟨?_, ?_⟩ (fun names => ?_) engine.name
    · exact Parameters.fault?_each_eq_none_of_perm hkeys
    · exact Parameters.fault?_each_eq_none_of_perm hkeys.symm
    · exact Scope.agreeOn_each fun x _ => ⟨hkeys.mem_iff, fun _ => h.alike.get? x⟩
  | single binding =>
    exact Template.compile_render_together Iff.rfl (Scope.agreeOn_whole h.alike binding)
      engine.name

set_option maxRecDepth 4000 in
/-- The keys of the store, of an object in it, and of an object in that one. -/
theorem Engine.run_reordered_nested :
    ∃ out, ({} : Engine).run "$\x7ba.y === a['y']\x7d$\x7ba.y.q\x7d$\x7bb\x7d" (.ofFields
        [("a", .object [("x", .null), ("y", .object [("p", .null), ("q", .string "é")])]),
          ("b", .boolean true)]) = .ok out ∧
      ({} : Engine).run "$\x7ba.y === a['y']\x7d$\x7ba.y.q\x7d$\x7bb\x7d" (.ofFields
        [("b", .boolean true),
          ("a", .object [("y", .object [("q", .string "é"), ("p", .null)]), ("x", .null)])]) =
        .ok out := by
  have hinner : Data.Reordered (.object [("p", .null), ("q", .string "é")])
      (.object [("q", .string "é"), ("p", .null)]) :=
    .of_perm (List.forall₂_same.2 fun _ _ => ⟨rfl, .same _⟩) (.swap _ _ []) (by decide)
  have houter : Data.Reordered
      (.object [("x", .null), ("y", .object [("p", .null), ("q", .string "é")])])
      (.object [("y", .object [("q", .string "é"), ("p", .null)]), ("x", .null)]) :=
    @Data.Reordered.of_perm _
      [("x", .null), ("y", .object [("q", .string "é"), ("p", .null)])] _
      (.cons ⟨rfl, .same _⟩ (.cons ⟨rfl, hinner⟩ .nil)) (.swap _ _ []) (by decide)
  have hstore : Data.Reordered
      (.object [("a", .object [("x", .null), ("y", .object [("p", .null), ("q", .string "é")])]),
        ("b", .boolean true)])
      (.object [("b", .boolean true),
        ("a", .object [("y", .object [("q", .string "é"), ("p", .null)]), ("x", .null)])]) :=
    @Data.Reordered.of_perm _
      [("a", .object [("y", .object [("q", .string "é"), ("p", .null)]), ("x", .null)]),
        ("b", .boolean true)] _
      (.cons ⟨rfl, houter⟩ (.cons ⟨rfl, .same _⟩ .nil)) (.swap _ _ []) (by decide)
  have hrun := @Engine.run_reordered _ {} "$\x7ba.y === a['y']\x7d$\x7ba.y.q\x7d$\x7bb\x7d"
    (.ofFields [("a", .object [("x", .null), ("y", .object [("p", .null), ("q", .string "é")])]),
      ("b", .boolean true)])
    (.ofFields [("b", .boolean true),
      ("a", .object [("y", .object [("q", .string "é"), ("p", .null)]), ("x", .null)])]) hstore
  rcases hrun with hsame | hfails
  · exact hsame
  · obtain ⟨d, _, hd, -⟩ := hfails
    have hout : ({} : Engine).run "$\x7ba.y === a['y']\x7d$\x7ba.y.q\x7d$\x7bb\x7d" (.ofFields
        [("a", .object [("x", .null), ("y", .object [("p", .null), ("q", .string "é")])]),
          ("b", .boolean true)]) = .ok "trueétrue" := by cbv
    cases hout.symm.trans hd

end TemplateLiteral
