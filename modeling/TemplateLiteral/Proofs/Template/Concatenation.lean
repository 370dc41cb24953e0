import Mathlib
import TemplateLiteral.Proofs.Template.Spelling
import TemplateLiteral.Rendering

/-!
# Templates in a row

Two templates in a row are one template, and its output is that of both in a row, if the first does
not end with a character that an escape or an opening may begin with. Nothing of the first is left
to be done at the seam: all of its markers are closed, no backslash waits for what it escapes, and
literal text on both sides of the seam shows the same whether it is one segment or two. What the
second has is moved, which changes where its faults point and nothing else about them.

## Main definitions

* `Atom.text`, `shown`: what characters and values show

## Main results

* `Template.output_eq`: the output of a template is what its segments spell
* `Template.output_append`: the output of two texts in a row
* `Template.compile_append`: when two texts in a row are a template, and what its output is
-/

namespace TemplateLiteral

/-! ## What is spelled is shown -/

/-- What an atom shows. -/
def Atom.text (scope : Scope) : Atom → Except EvalFault (List Char)
  | .char c => .ok [c]
  | .value e => do
    return (← scope.evaluate e).text.toList

/-- What a list of atoms shows. -/
def shown (scope : Scope) : List Atom → Except EvalFault (List Char)
  | [] => .ok []
  | atom :: atoms => do
    let front ← atom.text scope
    let back ← shown scope atoms
    return front ++ back

section Shown

variable (scope : Scope)

theorem shown_append (xs ys : List Atom) :
    shown scope (xs ++ ys) = do
      let front ← shown scope xs
      let back ← shown scope ys
      return front ++ back := by
  induction xs with
  | nil => cases h : shown scope ys <;> rw [List.nil_append, h] <;> rfl
  | cons atom xs ih =>
    rw [List.cons_append, shown, ih, shown]
    cases atom.text scope with
    | error fault => rfl
    | ok front =>
      cases shown scope xs with
      | error fault => rfl
      | ok middle =>
        cases shown scope ys with
        | error fault => rfl
        | ok back => exact congrArg Except.ok (List.append_assoc front middle back).symm

theorem shown_map_char (text : List Char) : shown scope (text.map .char) = .ok text := by
  induction text with
  | nil => rfl
  | cons c text ih =>
    rw [List.map_cons, shown, ih]
    rfl

theorem shown_map_relocate (φ : Nat → Nat) (atoms : List Atom) :
    shown scope (atoms.map (Atom.relocate φ)) =
      (shown scope atoms).mapError (EvalFault.relocate φ) := by
  induction atoms with
  | nil => rfl
  | cons atom atoms ih =>
    have htext : (atom.relocate φ).text scope =
        (atom.text scope).mapError (EvalFault.relocate φ) := by
      cases atom with
      | char c => rfl
      | value e => exact bind_eq_mapError (scope.evaluate_relocate φ e) fun _ => rfl
    exact bind_eq_mapError htext fun _ => bind_eq_mapError ih fun _ => rfl

/-- What is spelled is shown together if each atom is. -/
theorem shown_together {q : EvalFault → EvalFault → Prop} {scope' : Scope} {xs ys : List Atom}
    (h : List.Forall₂ (fun x y => Together q Eq (x.text scope) (y.text scope')) xs ys) :
    Together q Eq (shown scope xs) (shown scope' ys) := by
  induction h with
  | nil => exact .ok rfl
  | cons hatom _ ih =>
    refine hatom.bind fun front _ hfront => ih.bind fun back _ hback => ?_
    subst hfront hback
    exact .ok rfl

theorem shown_atoms (s : Segment) : shown scope s.atoms = s.text scope := by
  cases s with
  | literal text region => exact shown_map_char scope text
  | marker e text region =>
    rw [Segment.atoms, shown, shown, Atom.text, Segment.text]
    cases scope.evaluate e with
    | error fault => rfl
    | ok value => exact congrArg Except.ok (List.append_nil value.text.toList)

theorem shown_flatMap_atoms (segments : List Segment) :
    shown scope (segments.flatMap Segment.atoms) = do
      return (← segments.mapM (Segment.text scope)).flatten := by
  induction segments with
  | nil => rfl
  | cons s segments ih =>
    rw [List.flatMap_cons, shown_append, shown_atoms, ih, List.mapM_cons]
    cases s.text scope with
    | error fault => rfl
    | ok front => cases segments.mapM (Segment.text scope) <;> rfl

end Shown

namespace Template

section Output

variable {t : Template} {store : Store}

/-- The output of a template is what its segments spell. -/
theorem output_eq : t.output store = shown (t.scope store) (t.segments.flatMap Segment.atoms) :=
  (shown_flatMap_atoms _ _).symm

theorem output_of_render_eq_ok {out : String} (h : t.render store = .ok out) :
    ∃ text, t.output store = .ok text ∧ out = String.ofList text := by
  unfold render at h
  split at h
  next text houtput => exact ⟨text, houtput, (Except.ok.inj h).symm⟩
  · cases h

theorem render_of_output_eq_ok {text : List Char} (h : t.output store = .ok text) :
    t.render store = .ok (String.ofList text) := by
  rw [render, h]

/-- A report of rendering is about a reference, and its reason is that of the fault. -/
theorem render_of_output_eq_error {fault : EvalFault} (h : t.output store = .error fault) :
    ∃ d, t.render store = .error d ∧ d.kind = .reference ∧ d.reason = fault.cause.reason := by
  rw [render, h]
  exact ⟨_, rfl, Diagnostic.kind_inTemplate _ _, Diagnostic.reason_inTemplate _ _⟩

theorem output_of_render_eq_error {d : Diagnostic} (h : t.render store = .error d) :
    ∃ fault, t.output store = .error fault ∧ d.kind = .reference ∧
      d.reason = fault.cause.reason := by
  cases houtput : t.output store with
  | ok text => cases (render_of_output_eq_ok houtput).symm.trans h
  | error fault =>
    obtain ⟨d', hd', hkind, hreason⟩ := render_of_output_eq_error houtput
    obtain rfl := Except.error.inj (hd'.symm.trans h)
    exact ⟨fault, rfl, hkind, hreason⟩

end Output

/-! ## Two texts in a row -/

section Compile

variable [Text.Alphabet] {source : String} {parameters : Parameters} {name : Option String}
  {t : Template}

theorem spells_of_compile (h : compile source parameters name = .ok t) :
    Spells 0 source.toList (t.segments.flatMap Segment.atoms) := by
  obtain ⟨-, segments, hsegments, rfl⟩ := compile_eq_ok_iff.1 h
  exact spells_iff.2 ⟨segments, hsegments, rfl⟩

theorem exists_compile_of_spells (h : parameters.fault? = none) {atoms : List Atom}
    (hspells : Spells 0 source.toList atoms) :
    ∃ t, compile source parameters name = .ok t := by
  obtain ⟨segments, hsegments, -⟩ := spells_iff.1 hspells
  exact ⟨_, compile_eq_ok_iff.2 ⟨h, segments, hsegments, rfl⟩⟩

end Compile

/-- The output of two texts in a row. -/
theorem output_append [Text.Alphabet] {source₁ source₂ : String} {parameters : Parameters}
    {name name₁ name₂ : Option String} {t t₁ t₂ : Template}
    (h : compile (source₁ ++ source₂) parameters name = .ok t)
    (h₁ : compile source₁ parameters name₁ = .ok t₁)
    (h₂ : compile source₂ parameters name₂ = .ok t₂) (hends : EndsPlain source₁.toList)
    (store : Store) :
    t.output store = do
      let front ← t₁.output store
      let back ← (t₂.output store).mapError
        (EvalFault.relocate (· + Text.byteLength source₁.toList))
      return front ++ back := by
  have hspells := spells_of_compile h
  rw [String.toList_append] at hspells
  obtain ⟨more, hmore, hall⟩ :=
    ((spells_of_compile h₁).append_iff_relocate hends).1 hspells
  -- What the second text spells does not depend on the text before it, up to its place.
  obtain rfl := hmore.unique (spells_of_compile h₂)
  obtain ⟨-, _, -, rfl⟩ := compile_eq_ok_iff.1 h
  obtain ⟨-, _, -, rfl⟩ := compile_eq_ok_iff.1 h₁
  obtain ⟨-, _, -, rfl⟩ := compile_eq_ok_iff.1 h₂
  rw [output_eq, hall, shown_append, shown_map_relocate, output_eq, output_eq]
  rfl

/-- If a text is a template and does not end with a backslash or a dollar sign, then the text with
another behind it is a template exactly if the other is. Its output is then the two outputs in a
row; if there is a fault in the first, this is reported, and otherwise that in the second. -/
theorem compile_append [Text.Alphabet] {source₁ : String} {parameters : Parameters}
    {name name₁ name₂ : Option String} {t₁ : Template}
    (h₁ : compile source₁ parameters name₁ = .ok t₁)
    (hbackslash : source₁.toList.getLast? ≠ some '\\')
    (hdollar : source₁.toList.getLast? ≠ some '$') (source₂ : String) :
    ((∃ t, compile (source₁ ++ source₂) parameters name = .ok t) ↔
      ∃ t₂, compile source₂ parameters name₂ = .ok t₂) ∧
    ∀ t t₂, compile (source₁ ++ source₂) parameters name = .ok t →
      compile source₂ parameters name₂ = .ok t₂ → ∀ store,
        (∀ out₁ out₂, t₁.render store = .ok out₁ → t₂.render store = .ok out₂ →
          t.render store = .ok (out₁ ++ out₂)) ∧
        (∀ d₁, t₁.render store = .error d₁ →
          ∃ d, t.render store = .error d ∧ d.kind = d₁.kind ∧ d.reason = d₁.reason) ∧
        ∀ out₁ d₂, t₁.render store = .ok out₁ → t₂.render store = .error d₂ →
          ∃ d, t.render store = .error d ∧ d.kind = d₂.kind ∧ d.reason = d₂.reason := by
  have hparameters := (compile_eq_ok_iff.1 h₁).1
  have hends : EndsPlain source₁.toList := ⟨hbackslash, hdollar⟩
  have hspells₁ := spells_of_compile h₁
  refine ⟨⟨?_, ?_⟩, fun t t₂ h h₂ store => ?_⟩
  · intro h
    obtain ⟨t, h⟩ := h
    have hspells := spells_of_compile h
    rw [String.toList_append] at hspells
    obtain ⟨more, hmore, -⟩ := (hspells₁.append_iff_relocate hends).1 hspells
    exact exists_compile_of_spells hparameters hmore
  · intro h
    obtain ⟨t₂, h₂⟩ := h
    have hspells := (hspells₁.append_iff_relocate hends).2 ⟨_, spells_of_compile h₂, rfl⟩
    rw [← String.toList_append] at hspells
    exact exists_compile_of_spells hparameters hspells
  -- Faults of the second text point elsewhere in the joint text, but have the same cause.
  have houtput := output_append h h₁ h₂ hends store
  refine ⟨fun out₁ out₂ hout₁ hout₂ => ?_, fun d₁ hd₁ => ?_, fun out₁ d₂ hout₁ hd₂ => ?_⟩
  · obtain ⟨front, hfront, rfl⟩ := output_of_render_eq_ok hout₁
    obtain ⟨back, hback, rfl⟩ := output_of_render_eq_ok hout₂
    rw [hfront, hback] at houtput
    rw [render_of_output_eq_ok houtput, String.ofList_append]
  · obtain ⟨fault, hfault, hkind, hreason⟩ := output_of_render_eq_error hd₁
    rw [hfault] at houtput
    obtain ⟨d, hd, hdkind, hdreason⟩ := render_of_output_eq_error houtput
    exact ⟨d, hd, hdkind.trans hkind.symm, hdreason.trans hreason.symm⟩
  · obtain ⟨front, hfront, rfl⟩ := output_of_render_eq_ok hout₁
    obtain ⟨fault, hfault, hkind, hreason⟩ := output_of_render_eq_error hd₂
    rw [hfront, hfault] at houtput
    obtain ⟨d, hd, hdkind, hdreason⟩ := render_of_output_eq_error houtput
    exact ⟨d, hd, hdkind.trans hkind.symm, hdreason.trans hreason.symm⟩

/-- A marker behind two backslashes, and an escaped opening behind a brace. -/
theorem compile_append_escaped :
    ∃ t t₁ t₂, compile "\\\\$\x7ba\x7d" (.whole "a") none = .ok t₁ ∧
      compile "\x7b\\$\x7b$\x7b'$'\x7d" (.whole "a") none = .ok t₂ ∧
      compile ("\\\\$\x7ba\x7d" ++ "\x7b\\$\x7b$\x7b'$'\x7d") (.whole "a") none = .ok t ∧
      ∀ store out₁ out₂, t₁.render store = .ok out₁ → t₂.render store = .ok out₂ →
        t.render store = .ok (out₁ ++ out₂) := by
  have hboth : (∃ t, compile "\\\\$\x7ba\x7d" (.whole "a") none = .ok t) ∧
      ∃ t, compile "\x7b\\$\x7b$\x7b'$'\x7d" (.whole "a") none = .ok t :=
    ⟨⟨_, by cbv⟩, ⟨_, by cbv⟩⟩
  obtain ⟨⟨t₁, h₁⟩, ⟨t₂, h₂⟩⟩ := hboth
  obtain ⟨hiff, hrender⟩ := compile_append h₁ (by decide) (by decide)
    "\x7b\\$\x7b$\x7b'$'\x7d"
  obtain ⟨t, h⟩ := hiff.2 ⟨t₂, h₂⟩
  exact ⟨t, t₁, t₂, h₁, h₂, h, fun store => (hrender t t₂ h h₂ store).1⟩

end Template

end TemplateLiteral
