import TemplateLiteral.Proofs.Template.Qualification

/-!
# What does not depend on places

Where tokens stand is seen in regions only. Tokens of the same kinds, with the same characters, are
read as the same expression up to regions, whatever stands between them, and such expressions show
the same or fail for the same reason. So two templates that spell the same up to places do the same
with every store.

Places are forgotten by moving all of them to one place.

## Main results

* `Expr.exists_ofTokens_nowhere`: tokens that are the same up to places
* `shown_of_nowhere`: what is spelled the same up to places
* `Template.render_of_nowhere`: templates that spell the same up to places
-/

namespace TemplateLiteral

open Grammar

variable {tokens tokens' : TokenStream} {ts us : List Token} {e e' : Expr}

/-! ## Tokens and expressions -/

theorem Expr.relocate_nowhere (φ : Nat → Nat) (e : Expr) :
    (e.relocate φ).relocate nowhere = e.relocate nowhere := by
  induction e with
  | literal | name => rfl
  | member _ _ _ _ _ ih | unary _ _ _ ih | group _ _ ih =>
    simp only [relocate, Region.relocate_nowhere, ih]
  | index _ _ _ _ ihReceiver ihKey =>
    simp only [relocate, Region.relocate_nowhere, ihReceiver, ihKey]
  | binary _ _ _ _ ihLeft ihRight =>
    simp only [relocate, Region.relocate_nowhere, ihLeft, ihRight]
  | conditional _ _ _ _ ihTest ihYes ihNo =>
    simp only [relocate, Region.relocate_nowhere, ihTest, ihYes, ihNo]

/-- Where no name is declared, qualification changes regions only. -/
theorem Expr.Qualified.relocate_nowhere {binding : String} (h : e.Qualified [] binding e') :
    e'.relocate nowhere = e.relocate nowhere := by
  have hregion : ∀ r r' : Region, r.relocate nowhere = r'.relocate nowhere := fun _ _ => rfl
  induction h with
  | literal | free => rfl
  | declared hx => cases hx
  | member _ ih =>
    rw [relocate, relocate, ih]
    rfl
  | unary _ ih | group _ ih => rw [relocate, relocate, ih, hregion]
  | index _ _ ihReceiver ihKey => rw [relocate, relocate, ihReceiver, ihKey, hregion]
  | binary _ _ ihLeft ihRight => rw [relocate, relocate, ihLeft, ihRight, hregion]
  | conditional _ _ _ ihTest ihYes ihNo =>
    rw [relocate, relocate, ihTest, ihYes, ihNo, hregion]

theorem Expr.places_nil (e : Expr) : e.places [] = [] := by
  induction e with
  | literal | name => rfl
  | member _ _ _ _ _ ih | unary _ _ _ ih | group _ _ ih => exact ih
  | index _ _ _ _ ihReceiver ihKey => simp only [places, ihReceiver, ihKey, List.append_nil]
  | binary _ _ _ _ ihLeft ihRight => simp only [places, ihLeft, ihRight, List.append_nil]
  | conditional _ _ _ _ ihTest ihYes ihNo =>
    simp only [places, ihTest, ihYes, ihNo, List.append_nil]

/-- Tokens without marks are qualified by tokens that are the same up to places. -/
theorem Grammar.qualifies_of_nowhere {binding : String} {marks : List (Token × Bool)}
    (hmarks : markedPlaces marks = [])
    (h : us.map (Token.relocate nowhere) = (marks.map Prod.fst).map (Token.relocate nowhere)) :
    Qualifies binding marks us := by
  induction marks generalizing us with
  | nil =>
    obtain rfl := List.map_eq_nil_iff.1 h
    exact .nil
  | cons mark marks ih =>
    obtain ⟨t, marked⟩ := mark
    obtain ⟨u, us, rfl, hu, hus⟩ := List.map_eq_cons_iff.1 h
    cases marked with
    | true => simp [markedPlaces] at hmarks
    | false =>
      rw [markedPlaces_keep] at hmarks
      obtain ⟨hkind, htext, -⟩ := Token.mk.inj hu
      exact .keep hkind htext (ih hmarks hus)

/-- A phrase whose tokens stand elsewhere is a phrase for the same expression, up to regions. -/
theorem Grammar.Derives.exists_nowhere (h : Derives .expression ts e)
    (hsame : us.map (Token.relocate nowhere) = ts.map (Token.relocate nowhere)) :
    ∃ e', Derives .expression us e' ∧ e.Qualified [] "" e' := by
  obtain ⟨marks, hmarks⟩ := h.exists_marks [] ""
  have hplaces := hmarks.places
  rw [Expr.places_nil] at hplaces
  rw [← hmarks.tokens] at hsame
  exact hmarks.qualify us (qualifies_of_nowhere hplaces.symm hsame)

theorem TokenStream.exists_prepend_of_nowhere {r : Region}
    (h : tokens'.relocate nowhere = (prepend ts (.close r)).relocate nowhere) :
    ∃ us r', tokens' = prepend us (.close r') ∧
      us.map (Token.relocate nowhere) = ts.map (Token.relocate nowhere) := by
  induction ts generalizing tokens' with
  | nil =>
    cases tokens' with
    | close r' => exact ⟨[], r', rfl, rfl⟩
    | _ => cases h
  | cons t ts ih =>
    cases tokens' with
    | token u rest =>
      obtain ⟨hu, hrest⟩ := TokenStream.token.inj h
      obtain ⟨us, r', rfl, hus⟩ := ih hrest
      exact ⟨u :: us, r', rfl, congrArg₂ List.cons hu hus⟩
    | _ => cases h

/-- From tokens that are the same up to places the same expression is read, up to regions. -/
theorem Expr.exists_ofTokens_nowhere (h : Expr.ofTokens tokens = .ok e)
    (hsame : tokens'.relocate nowhere = tokens.relocate nowhere) :
    ∃ e', Expr.ofTokens tokens' = .ok e' ∧ e'.relocate nowhere = e.relocate nowhere := by
  obtain ⟨ts, r, rfl, hderives, hunmixed, hnesting⟩ := Expr.ofTokens_eq_ok_iff.1 h
  obtain ⟨us, r', rfl, hus⟩ := TokenStream.exists_prepend_of_nowhere hsame
  obtain ⟨e', he', hqualified⟩ := hderives.exists_nowhere hus
  have heq := hqualified.relocate_nowhere
  have hcharge : e'.charge = e.charge := by
    rw [← Expr.charge_relocate nowhere e', heq, Expr.charge_relocate]
  refine ⟨e', Expr.ofTokens_eq_ok_iff.2 ⟨us, r', rfl, he', hqualified.unmixed hunmixed, ?_⟩, heq⟩
  rw [Expr.nesting, hcharge]
  exact hnesting

/-! ## What is shown -/

theorem Atom.relocate_nowhere (φ : Nat → Nat) (atom : Atom) :
    (atom.relocate φ).relocate nowhere = atom.relocate nowhere := by
  cases atom with
  | char c => rfl
  | value e => exact congrArg Atom.value (e.relocate_nowhere φ)

theorem Atom.map_relocate_nowhere (φ : Nat → Nat) (atoms : List Atom) :
    (atoms.map (Atom.relocate φ)).map (Atom.relocate nowhere) =
      atoms.map (Atom.relocate nowhere) := by
  rw [List.map_map]
  exact List.map_congr_left fun atom _ => atom.relocate_nowhere φ

/-- What is spelled the same up to places shows the same, or fails for the same cause. -/
theorem shown_of_nowhere {xs ys : List Atom} (scope : Scope)
    (h : xs.map (Atom.relocate nowhere) = ys.map (Atom.relocate nowhere)) :
    Together Scope.SameCause Eq (shown scope xs) (shown scope ys) := by
  have hshown := congrArg (shown scope) h
  rw [shown_map_relocate, shown_map_relocate] at hshown
  generalize shown scope xs = x, shown scope ys = y at hshown
  cases x <;> cases y
  case error.error f g =>
    obtain ⟨hcause, -⟩ := EvalFault.mk.inj (Except.error.inj hshown)
    exact .error hcause
  case ok.ok => exact .ok (Except.ok.inj hshown)
  case error.ok => cases hshown
  case ok.error => cases hshown

/-- Templates that spell the same up to places show the same, or report the same. -/
theorem Template.render_of_nowhere {t t' : Template} (hparameters : t'.parameters = t.parameters)
    (h : (t.segments.flatMap Segment.atoms).map (Atom.relocate nowhere) =
      (t'.segments.flatMap Segment.atoms).map (Atom.relocate nowhere)) (store : Store) :
    (∃ out, t.render store = .ok out ∧ t'.render store = .ok out) ∨
      ∃ d d', t.render store = .error d ∧ t'.render store = .error d' ∧
        d.kind = d'.kind ∧ d.reason = d'.reason := by
  apply render_of_sameCause
  rw [output_eq, output_eq, scope, scope, hparameters]
  exact shown_of_nowhere _ h

end TemplateLiteral
