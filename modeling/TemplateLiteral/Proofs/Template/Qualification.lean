import TemplateLiteral.Engine
import TemplateLiteral.Proofs.Template.Insertion
import TemplateLiteral.Proofs.Template.Names

/-!
# Two ways to bind values

A template gets at the values by declared names, or by one name that is bound to all of them. A text
for the first is made into one for the second by putting the one name and a point in front of each
declared name that is looked up. The two show the same, or fail for the same reason, since a
property of all values is read as the value that is stored under its key, in the same place.

## Main definitions

* `Template.qualified`: a text with properties of a binding in the place of declared names

## Main results

* `Scope.chain_qualified`: an expression in a scope with declared names, and its qualified form in
  one with a binding for all values
* `Spells.qualified`: what a qualified text spells
* `Template.render_qualified`: a text in both ways to bind values
-/

namespace TemplateLiteral

/-! ## Expressions in both scopes -/

namespace Expr

variable {names : List String} {binding : String} {e e' : Expr}

theorem Qualified.ungroup (h : e.Qualified names binding e') :
    e.ungroup.Qualified names binding e'.ungroup := by
  induction h with
  | literal => exact .literal
  | free hx => exact .free hx
  | declared hx => exact .declared hx
  | member h _ => exact .member h
  | index h h' _ _ => exact .index h h'
  | unary h _ => exact .unary h
  | binary h h' _ _ => exact .binary h h'
  | conditional h h' h'' _ _ _ => exact .conditional h h' h''
  | group _ ih => exact ih

end Expr

namespace Scope

/-- The faults have the same cause. -/
def SameCause (f g : EvalFault) : Prop :=
  f.cause = g.cause

theorem chain_eq_of_ungroup {scope : Scope} {e : Expr} {x : String} {r : Region} {v : Value}
    (h : e.ungroup = .name x r) (hv : scope.lookup? x = some v) : scope.chain e = .ok (some v) := by
  induction e with
  | name y s =>
    obtain ⟨rfl, rfl⟩ := Expr.name.inj h
    rw [chain, hv]
  | group inner s ih => rw [chain, ih h]; rfl
  | _ => cases h

/-- Only the type of a name that is not bound is asked for without evaluating the name. -/
theorem chain_unary_of_bound {scope : Scope} {op : UnaryOperator} {operand : Expr} {r : Region}
    (h : ∀ x r, op = .typeof → operand.ungroup = .name x r → (scope.lookup? x).isSome) :
    scope.chain (.unary op operand r) = do
      return some (op.apply ((← scope.chain operand).getD .undefined)) := by
  by_cases hname : op = .typeof ∧ ∃ x r, operand.ungroup = .name x r
  · obtain ⟨rfl, x, s, hungroup⟩ := hname
    obtain ⟨v, hv⟩ := Option.isSome_iff_exists.1 (h x s rfl hungroup)
    simp only [chain, hungroup]
    rw [chain_eq_of_ungroup hungroup hv, hv]
    rfl
  · exact chain_unary scope hname

theorem read_sameCause (v : Value) (key : String) (region region' : Region) :
    Together SameCause Eq (read v key region) (read v key region') := by
  unfold read
  split
  · exact .error rfl
  · exact .ok rfl

variable {names : List String} {binding : String} {e e' : Expr}

theorem lookup?_each_of_mem {x : String} (hx : x ∈ names) (store : Store) :
    lookup? ⟨.each names, store⟩ x = some (Value.ofData? [.key x] (store.get? x)) := by
  simp only [lookup?, declared?, if_pos hx, Option.some_or]

theorem lookup?_each_of_not_mem {x : String} (hx : x ∉ names) (store : Store) :
    lookup? ⟨.each names, store⟩ x = global? x := by
  simp only [lookup?, declared?, if_neg hx, Option.none_or]

theorem lookup?_whole_of_ne {x : String} (hx : x ≠ binding) (store : Store) :
    lookup? ⟨.whole binding, store⟩ x = global? x := by
  simp only [lookup?, declared?, if_neg hx, Option.none_or]

/-- A property of all values is the value under its key, in the same place. -/
theorem chain_member_whole (binding x : String) (r place r' : Region) (store : Store) :
    chain ⟨.whole binding, store⟩ (.member (.name binding r) x place false r') =
      .ok (some (Value.ofData? [.key x] (store.get? x))) := by
  have hbinding : lookup? ⟨.whole binding, store⟩ binding = some (.object store.fields []) := by
    simp only [lookup?, declared?, if_pos, Option.some_or]
  rw [chain, chain, hbinding]
  rfl

/-- With a binding for all values, a qualified expression has the value that the expression has with
declared names, or a fault with the same cause. -/
theorem chain_qualified (h : e.Qualified names binding e')
    (hbinding : binding ∈ e.names → binding ∈ names) (store : Store) :
    Together SameCause (Option.Rel Eq) (chain ⟨.each names, store⟩ e)
      (chain ⟨.whole binding, store⟩ e') := by
  have hfree : ∀ {x : String} {e : Expr}, (binding ∈ e.names → binding ∈ names) → x ∈ e.names →
      x ∉ names → x ≠ binding := by
    rintro x e hbinding hx hfree rfl
    exact hfree (hbinding hx)
  induction h with
  | literal => exact .ok (.some rfl)
  | @free x r r' hx =>
    simp only [chain, lookup?_each_of_not_mem hx,
      lookup?_whole_of_ne (hfree hbinding List.mem_cons_self hx)]
    cases global? x with
    | none => exact .error rfl
    | some v => exact .ok (.some rfl)
  | @declared x r r' place' r'' hx =>
    rw [chain_member_whole, chain, lookup?_each_of_mem hx]
    exact .ok (.some rfl)
  | @member receiver receiver' x place place' optional r r' _ ih =>
    exact chain_member_together Value.respected_eq optional (ih hbinding)
      fun v _ hvw => hvw ▸ read_sameCause v x r r'
  | @index receiver receiver' key key' optional r r' _ _ ih ihKey =>
    exact chain_index_together Value.respected_eq optional
      (ih fun hx => hbinding (List.mem_append_left _ hx))
      (ihKey fun hx => hbinding (List.mem_append_right _ hx))
      fun x v _ hvw => hvw ▸ read_sameCause v x r r'
  | @unary op operand operand' r r' hoperand ih =>
    have hqualified := hoperand.ungroup
    -- The type of a free name is asked for without evaluating it, in both scopes.
    by_cases hname : op = .typeof ∧ ∃ x r, operand.ungroup = .name x r ∧ x ∉ names
    · obtain ⟨rfl, x, s, hungroup, hmem⟩ := hname
      have hx : x ∈ operand.names := by
        rw [← Expr.names_ungroup, hungroup]
        exact List.mem_cons_self
      obtain ⟨s', hungroup'⟩ : ∃ s', operand'.ungroup = .name x s' := by
        rw [hungroup] at hqualified
        generalize operand'.ungroup = inner at hqualified
        cases hqualified with
        | free => exact ⟨_, rfl⟩
        | declared hdeclared => exact absurd hdeclared hmem
      simp only [chain, hungroup, hungroup', lookup?_each_of_not_mem hmem,
        lookup?_whole_of_ne (hfree hbinding hx hmem)]
      exact .ok (.some rfl)
    · have hbound : ∀ x r, op = .typeof → operand.ungroup = .name x r →
          (lookup? ⟨.each names, store⟩ x).isSome := by
        intro x r hop hungroup
        have hmem : x ∈ names := by
          by_contra hmem
          exact hname ⟨hop, x, r, hungroup, hmem⟩
        rw [lookup?_each_of_mem hmem]
        rfl
      have hbound' : ∀ x r, op = .typeof → operand'.ungroup = .name x r →
          (lookup? ⟨.whole binding, store⟩ x).isSome := by
        intro x r hop hungroup'
        rw [hungroup'] at hqualified
        generalize hungroup : operand.ungroup = inner at hqualified
        cases hqualified with
        | free hmem => exact absurd ⟨hop, x, _, hungroup, hmem⟩ hname
      rw [chain_unary_of_bound hbound, chain_unary_of_bound hbound']
      exact apply_together Value.respected_eq op (ih hbinding)
  | @binary op left left' right right' r r' _ _ ihLeft ihRight =>
    exact chain_binary_together Value.respected_eq op
      (ihLeft fun hx => hbinding (List.mem_append_left _ hx))
      (ihRight fun hx => hbinding (List.mem_append_right _ hx))
  | @conditional test test' yes yes' no no' r r' _ _ _ ihTest ihYes ihNo =>
    exact chain_conditional_together Value.respected_eq
      (ihTest fun hx => hbinding (List.mem_append_left _ hx))
      (ihYes fun hx => hbinding (List.mem_append_right _ (List.mem_append_left _ hx)))
      (ihNo fun hx => hbinding (List.mem_append_right _ (List.mem_append_right _ hx)))
  | group _ ih => exact chain_group_together Value.respected_eq (ih hbinding)

end Scope

/-! ## What a qualified text spells -/

/-- The places in which declared names are looked up for an atom. -/
def Atom.places (names : List String) : Atom → List Nat
  | .char _ => []
  | .value e => e.places names

/-- The second atom is the first with properties of the binding in the place of declared names. -/
inductive Atom.Qualified (names : List String) (binding : String) : Atom → Atom → Prop where
  | char {c : Char} : Atom.Qualified names binding (.char c) (.char c)
  | value {e e' : Expr} : e.Qualified names binding e' →
      Atom.Qualified names binding (.value e) (.value e')

/-- A marker is closed behind blank characters, if there are no tokens in it. -/
theorem exists_blanks_of_scan_eq_close [Text.Alphabet] {start : Nat} {text : List Char} {r : Region}
    (h : (scan start text).tokens = .close r) :
    ∃ blanks rest, text = blanks ++ '}' :: rest ∧ ∀ b ∈ blanks, Text.isBlank b := by
  fun_induction scan start text with
  | case1 => cases h
  | case2 start c rest hblank next ih =>
    obtain ⟨blanks, rest, rfl, hblanks⟩ := ih h
    exact ⟨c :: blanks, rest, rfl, List.forall_mem_cons.2 ⟨hblank, hblanks⟩⟩
  | case3 start rest => exact ⟨[], rest, rfl, List.forall_mem_nil _⟩
  | case4 => cases h
  | case5 => cases h

section Markers

open Grammar

variable [Text.Alphabet] {start : Nat} {front blanks rest : List Char} {ts : List Token}

/-- A stretch, blank characters and a closing brace are a marker. -/
theorem Scans.scan_closed (h : Scans (blanks ++ '}' :: rest) start front ts)
    (hblanks : ∀ b ∈ blanks, Text.isBlank b) :
    ∃ closing, scan start (front ++ (blanks ++ '}' :: rest)) =
      ⟨.prepend ts (.close closing), front ++ (blanks ++ ['}']), rest⟩ := by
  rw [h.scan_eq, scan_blanks hblanks, scan_closingBrace]
  exact ⟨_, rfl⟩

/-- The inside of a marker with an expression is a stretch, and then blank characters. -/
theorem exists_scans_of_ofTokens {text : List Char} {e : Expr}
    (h : Expr.ofTokens (scan start text).tokens = .ok e) : ∃ front blanks rest ts closing,
    text = front ++ (blanks ++ '}' :: rest) ∧ (∀ b ∈ blanks, Text.isBlank b) ∧
      Scans (blanks ++ '}' :: rest) start front ts ∧ Derives .expression ts e ∧
      scan start text = ⟨.prepend ts (.close closing), front ++ (blanks ++ ['}']), rest⟩ := by
  obtain ⟨ts, closing, htokens, hderives, -, -⟩ := Expr.ofTokens_eq_ok_iff.1 h
  obtain ⟨front, after, rfl, hfront, hclose⟩ := exists_scans htokens
  obtain ⟨blanks, rest, rfl, hblanks⟩ := exists_blanks_of_scan_eq_close hclose
  obtain ⟨closing, hscan⟩ := hfront.scan_closed hblanks
  exact ⟨front, blanks, rest, ts, closing, rfl, hblanks, hfront, hderives, hscan⟩

/-- Names that are looked up for an expression stand in the stretch that it is read from. -/
theorem Scans.places_within {after text : List Char} {c : Phrase} {e : Expr}
    (h : Scans after start text ts) (he : Derives c ts e) (names : List String) :
    ∀ p ∈ e.places names, start ≤ p ∧ p < start + Text.byteLength text := by
  obtain ⟨marks, hmarks⟩ := he.exists_marks names ""
  intro p hp
  rw [hmarks.places] at hp
  obtain ⟨t, ht, rfl⟩ := mem_markedPlaces.1 hp
  have hmem : t ∈ ts := hmarks.tokens ▸ List.mem_map_of_mem ht
  obtain ⟨hstart, hlt, hstop⟩ := h.within t hmem
  omega

/-- A marker with the binding in front of the declared names that are looked up in it is closed by
the same brace. What is read from it, if anything, is the qualified expression. -/
theorem Scans.scan_qualified {names : List String} {binding : String} {places : List Nat}
    {closing : Region} {e : Expr} (hbinding : isIdentifier binding)
    (h : Scans (blanks ++ '}' :: rest) start front ts) (hblanks : ∀ b ∈ blanks, Text.isBlank b)
    (he : Expr.ofTokens (.prepend ts (.close closing)) = .ok e)
    (hplaces : ∀ p, start ≤ p → p < start + Text.byteLength front →
      (p ∈ places ↔ p ∈ e.places names)) (start' : Nat) (rest' : List Char) :
    ∃ tokens, scan start' (Text.insertAt places (binding.toList ++ ['.']) start front ++
        (blanks ++ '}' :: rest')) =
      ⟨tokens, Text.insertAt places (binding.toList ++ ['.']) start front ++ (blanks ++ ['}']),
        rest'⟩ ∧
      ∀ e', Expr.ofTokens tokens = .ok e' → e.Qualified names binding e' := by
  obtain ⟨_, _, htokens, hderives, hunmixed, -⟩ := Expr.ofTokens_eq_ok_iff.1 he
  obtain rfl := TokenStream.prepend_close_inj htokens
  obtain ⟨marks, hmarks⟩ := hderives.exists_marks names binding
  have hfork : Forks (blanks ++ '}' :: rest) (blanks ++ '}' :: rest') :=
    (forks_closingBrace rest rest').append blanks
  have hend : ∃ s tail tail', blanks ++ '}' :: rest = s :: tail ∧
      blanks ++ '}' :: rest' = s :: tail' ∧ Number.Numeral.Ends s := by
    cases blanks with
    | nil => exact ⟨'}', rest, rest', rfl, rfl, Number.Numeral.ends_closingBrace⟩
    | cons b blanks =>
      exact ⟨b, _, _, rfl, rfl, Number.Numeral.ends_of_isBlank (hblanks b List.mem_cons_self)⟩
  rw [hmarks.places] at hplaces
  obtain ⟨-, -, hscans⟩ := h.exists_qualified hbinding hfork hend hmarks.tokens
    hderives.isChain_numbers hmarks.onNames hplaces
  obtain ⟨us, hus, hqualifies⟩ := hscans start'
  obtain ⟨closing', hscan⟩ := hus.scan_closed hblanks
  refine ⟨_, hscan, fun e' he' => ?_⟩
  -- The tokens are those of the qualified expression, and are read as no other.
  obtain ⟨_, _, htokens', hderives', hunmixed', -⟩ := Expr.ofTokens_eq_ok_iff.1 he'
  obtain rfl := TokenStream.prepend_close_inj htokens'
  obtain ⟨e'', he'', hqualified⟩ := hmarks.qualify us hqualifies
  obtain rfl := Derives.unique he'' hderives' (hqualified.unmixed hunmixed) hunmixed'
  exact hqualified

end Markers

/-- A character stays literal, if nothing is put in behind it. -/
theorem Plain.insertAt {c : Char} {places : List Nat} {inserted rest : List Char} {start : Nat}
    (h : Plain c rest) (hplaces : ∀ p, start ≤ p → p < start + 2 → p ∉ places) :
    Plain c (Text.insertAt places inserted start rest) where
  escape := by
    intro tail hc heq
    obtain ⟨_, rfl, heq'⟩ := Text.exists_cons_of_insertAt_eq_cons
      (hplaces start (by omega) (by omega)) heq
    obtain ⟨_, rfl, -⟩ := Text.exists_cons_of_insertAt_eq_cons
      (hplaces (start + 1) (by omega) (by omega)) heq'
    exact h.escape _ hc rfl
  pair := by
    intro tail hc heq
    obtain ⟨_, rfl, -⟩ := Text.exists_cons_of_insertAt_eq_cons
      (hplaces start (by omega) (by omega)) heq
    exact h.pair _ hc rfl
  opening := by
    intro tail hc heq
    obtain ⟨_, rfl, -⟩ := Text.exists_cons_of_insertAt_eq_cons
      (hplaces start (by omega) (by omega)) heq
    exact h.opening _ hc rfl

namespace Spells

variable [Text.Alphabet] {names : List String} {binding : String} {places : List Nat} {start : Nat}
  {text : List Char} {atoms : List Atom}

/-- Names that are looked up stand behind an opening. -/
theorem add_two_le (h : Spells start text atoms) (names : List String) :
    ∀ p ∈ atoms.flatMap (Atom.places names), start + 2 ≤ p := by
  induction h with
  | nil => exact nofun
  | escape _ ih | pair _ ih => exact fun p hp => Nat.le_trans (by omega) (ih p hp)
  | @marker start text e atoms he _ ih =>
    obtain ⟨front, blanks, rest, ts, closing, rfl, -, hfront, hderives, -⟩ :=
      exists_scans_of_ofTokens he
    intro p hp
    rcases List.mem_append.1 hp with hp | hp
    · exact (hfront.places_within hderives names p hp).1
    · exact Nat.le_trans (by omega) (ih p hp)
  | char _ _ ih => exact fun p hp => Nat.le_trans (by omega) (ih p hp)

/-- Nothing is put into what stands in front of a text with all of the places in it. -/
theorem insertAt_append {xs : List Char} (inserted : List Char)
    (h : Spells (start + Text.byteLength xs) text atoms)
    (hplaces : ∀ p, start ≤ p → (p ∈ places ↔ p ∈ atoms.flatMap (Atom.places names))) :
    Text.insertAt places inserted start (xs ++ text) =
      xs ++ Text.insertAt places inserted (start + Text.byteLength xs) text := by
  apply Text.insertAt_append_of_free
  intro p hstart hstop hp
  have := h.add_two_le names p ((hplaces p hstart).1 hp)
  omega

/-- With the binding in front of the declared names that it looks up, a text spells the same
characters, and the qualified forms of the same expressions. -/
theorem qualified (hbinding : isIdentifier binding) (h : Spells start text atoms)
    (hplaces : ∀ p, start ≤ p → (p ∈ places ↔ p ∈ atoms.flatMap (Atom.places names)))
    {start' : Nat} {atoms' : List Atom}
    (h' : Spells start' (Text.insertAt places (binding.toList ++ ['.']) start text) atoms') :
    List.Forall₂ (Atom.Qualified names binding) atoms atoms' := by
  induction h generalizing start' atoms' with
  | nil =>
    rw [spells_nil_iff.1 h']
    exact .nil
  | @escape start rest atoms hrest ih =>
    have htext := @insertAt_append _ names places start rest atoms ['\\', '$', '{']
      (binding.toList ++ ['.']) hrest hplaces
    obtain ⟨more, rfl, hmore⟩ := spells_escape_iff.1 (htext ▸ h')
    exact .cons .char (.cons .char (ih (fun p hp => hplaces p (by omega)) hmore))
  | @pair start rest atoms hrest ih =>
    have htext := @insertAt_append _ names places start rest atoms ['\\', '\\']
      (binding.toList ++ ['.']) hrest hplaces
    obtain ⟨more, rfl, hmore⟩ := spells_pair_iff.1 (htext ▸ h')
    exact .cons .char (.cons .char (ih (fun p hp => hplaces p (by omega)) hmore))
  | @char start c rest atoms hplain hrest ih =>
    have htext := @insertAt_append _ names places start rest atoms [c]
      (binding.toList ++ ['.']) hrest hplaces
    have hplain' : Plain c (Text.insertAt places (binding.toList ++ ['.'])
        (start + c.utf8Size) rest) := by
      refine hplain.insertAt fun p hstart hstop hp => ?_
      have := hrest.add_two_le names p ((hplaces p (by omega)).1 hp)
      omega
    obtain ⟨more, rfl, hmore⟩ := (spells_char_iff hplain').1 (htext ▸ h')
    exact .cons .char (ih (fun p hp => hplaces p (by omega)) hmore)
  | @marker start text e atoms he hrest ih =>
    obtain ⟨front, blanks, rest, ts, closing, rfl, hblanks, hfront, hderives, hscan⟩ :=
      exists_scans_of_ofTokens he
    rw [hscan] at hrest ih he
    dsimp only at hrest ih he
    have hwithin := hfront.places_within hderives names
    have hlater := hrest.add_two_le names
    have hplace : start + Text.byteLength ('$' :: '{' :: (front ++ (blanks ++ ['}']))) =
        start + 2 + Text.byteLength front + Text.byteLength (blanks ++ ['}']) := by
      rw [byteLength_opening, Text.byteLength_append]
      omega
    rw [hplace] at hrest ih hlater
    have hplaces' : ∀ p, start ≤ p →
        (p ∈ places ↔ p ∈ e.places names ∨ p ∈ atoms.flatMap (Atom.places names)) :=
      fun p hp => (hplaces p hp).trans List.mem_append
    -- Places in the marker are those of its expression, and places behind it are all later ones.
    have hinside : ∀ p, start + 2 ≤ p → p < start + 2 + Text.byteLength front →
        (p ∈ places ↔ p ∈ e.places names) := by
      intro p hstart hstop
      rw [hplaces' p (by omega), or_iff_left]
      intro hp
      have := hlater p hp
      omega
    have hbehind : ∀ p, start + 2 + Text.byteLength front ≤ p →
        (p ∈ places ↔ p ∈ atoms.flatMap (Atom.places names)) := by
      intro p hstart
      rw [hplaces' p (by omega), or_iff_right]
      intro hp
      have := hwithin p hp
      omega
    have hopening : ∀ p, start ≤ p → p < start + Text.byteLength ['$', '{'] → p ∉ places := by
      intro p hstart hstop hp
      have hstop' : p < start + 2 := hstop
      rcases (hplaces' p hstart).1 hp with hp | hp
      · have := hwithin p hp
        omega
      · have := hlater p hp
        omega
    have htext : Text.insertAt places (binding.toList ++ ['.']) start
        ('$' :: '{' :: (front ++ (blanks ++ '}' :: rest))) =
        '$' :: '{' :: (Text.insertAt places (binding.toList ++ ['.']) (start + 2) front ++
          (blanks ++ '}' :: Text.insertAt places (binding.toList ++ ['.'])
            (start + 2 + Text.byteLength front + Text.byteLength (blanks ++ ['}'])) rest)) := by
      have hclosing := insertAt_append (binding.toList ++ ['.']) hrest hbehind
      rw [List.append_assoc, List.append_assoc] at hclosing
      have hbody := @Text.insertAt_append places (binding.toList ++ ['.']) (start + 2) front
        (blanks ++ '}' :: rest)
      exact (Text.insertAt_append_of_free _ hopening).trans
        (congrArg ('$' :: '{' :: ·) (hbody.trans (congrArg (_ ++ ·) hclosing)))
    obtain ⟨tokens, hscan', hqualified⟩ := hfront.scan_qualified hbinding hblanks he hinside
      (start' + 2) (Text.insertAt places (binding.toList ++ ['.'])
        (start + 2 + Text.byteLength front + Text.byteLength (blanks ++ ['}'])) rest)
    rw [htext, spells_marker_iff, hscan'] at h'
    obtain ⟨e', more, rfl, he', hmore⟩ := h'
    exact .cons (.value (hqualified e' he')) (ih (fun p hp => hbehind p (by omega)) hmore)

end Spells

/-! ## Templates in both ways -/

/-- The places in which declared names are looked up for a segment. -/
def Segment.places (names : List String) : Segment → List Nat
  | .literal .. => []
  | .marker e _ _ => e.places names

theorem Segment.flatMap_places_atoms (names : List String) (s : Segment) :
    s.atoms.flatMap (Atom.places names) = s.places names := by
  cases s with
  | literal text region =>
    rw [atoms, List.flatMap_map]
    exact List.flatMap_eq_nil_iff.2 fun _ _ => rfl
  | marker e text region => exact List.append_nil _

namespace Template

variable [Text.Alphabet]

/-- The places in which the expressions of a text look declared names up. -/
def places (names : List String) (source : String) : List Nat :=
  match Segment.ofText source.toList with
  | .ok segments => segments.flatMap (Segment.places names)
  | .error _ => []

/-- The text with a property of the binding in the place of each declared name that is looked up. -/
def qualified (names : List String) (binding source : String) : String :=
  String.ofList
    (Text.insertAt (places names source) (binding.toList ++ ['.']) 0 source.toList)

variable {names : List String} {binding : String} {source : String} {name name' : Option String}
  {t t' : Template}

/-- What a template spells is qualified in the template of the qualified text. -/
theorem forall₂_qualified (h : compile source (.each names) name = .ok t)
    (h' : compile (qualified names binding source) (.whole binding) name' = .ok t') :
    List.Forall₂ (Atom.Qualified names binding) (t.segments.flatMap Segment.atoms)
      (t'.segments.flatMap Segment.atoms) := by
  obtain ⟨-, segments, hsegments, rfl⟩ := compile_eq_ok_iff.1 h
  have hbinding : isIdentifier binding := by
    have hfault := (compile_eq_ok_iff.1 h').1
    by_contra hno
    rw [Parameters.fault?, if_neg hno] at hfault
    cases hfault
  have hspells' := spells_of_compile h'
  rw [qualified, String.toList_ofList] at hspells'
  refine (spells_of_compile h).qualified hbinding (fun p _ => ?_) hspells'
  rw [places, hsegments, List.flatMap_assoc]
  simp only [Segment.flatMap_places_atoms]

end Template

/-- What an atom shows with declared names, its qualified form shows with the binding. -/
theorem Atom.Qualified.text_together {names : List String} {binding : String} {atom atom' : Atom}
    (h : atom.Qualified names binding atom')
    (hbinding : ∀ e, atom = .value e → binding ∈ e.names → binding ∈ names) (store : Store) :
    Together Scope.SameCause Eq (atom.text ⟨.each names, store⟩)
      (atom'.text ⟨.whole binding, store⟩) := by
  cases h with
  | char => exact .ok rfl
  | value h =>
    have hvalue := Scope.evaluate_together Value.respected_eq
      (Scope.chain_qualified h (hbinding _ rfl) store)
    exact hvalue.bind fun v w hvw => .ok (congrArg (fun v => (Value.text v).toList) hvw)

/-- Templates whose outputs are the same or have faults with the same cause are rendered as the same
text, or report the same. -/
theorem Template.render_of_sameCause {t t' : Template} {store : Store}
    (h : Together Scope.SameCause Eq (t.output store) (t'.output store)) :
    (∃ out, t.render store = .ok out ∧ t'.render store = .ok out) ∨
      ∃ d d', t.render store = .error d ∧ t'.render store = .error d' ∧
        d.kind = d'.kind ∧ d.reason = d'.reason := by
  generalize hout : t.output store = out at h
  generalize hout' : t'.output store = out' at h
  cases h with
  | ok heq =>
    subst heq
    exact .inl ⟨_, render_of_output_eq_ok hout, render_of_output_eq_ok hout'⟩
  | error hcause =>
    obtain ⟨d, hd, hkind, hreason⟩ := render_of_output_eq_error hout
    obtain ⟨d', hd', hkind', hreason'⟩ := render_of_output_eq_error hout'
    have hsame := congrArg EvalFault.Cause.reason hcause
    exact .inr ⟨d, d', hd, hd', hkind.trans hkind'.symm,
      hreason.trans (hsame.trans hreason'.symm)⟩

/-- With names declared one by one a text shows what its qualified form shows with one name for all
values, or both report the same: for every text that is a template with the one, and whose qualified
form is a template with the other, unless the one name is itself looked up without being
declared. -/
theorem Engine.render_qualified [Text.Alphabet] {names : List String} {binding source : String}
    {engine engine' : Engine} {t t' : Template}
    (h : engine.destructure.compile source names = .ok t)
    (h' : (engine'.single binding).compile (Template.qualified names binding source) [] = .ok t')
    (hbinding : binding ∈ Template.mentioned source → binding ∈ names) (store : Store) :
    (∃ out, t.render store = .ok out ∧ t'.render store = .ok out) ∨
      ∃ d d', t.render store = .error d ∧ t'.render store = .error d' ∧
        d.kind = d'.kind ∧ d.reason = d'.reason := by
  have hqualified := Template.forall₂_qualified h h'
  obtain ⟨-, segments, hsegments, rfl⟩ := Template.compile_eq_ok_iff.1 h
  obtain ⟨-, segments', -, rfl⟩ := Template.compile_eq_ok_iff.1 h'
  rw [Template.mentioned, hsegments] at hbinding
  have hfree : ∀ atom ∈ segments.flatMap Segment.atoms, ∀ e, atom = .value e →
      binding ∈ e.names → binding ∈ names := by
    rintro atom hatom e rfl hx
    exact hbinding (Segment.names_subset_of_mem_atoms hatom hx)
  apply Template.render_of_sameCause
  rw [Template.output_eq, Template.output_eq]
  refine shown_together _ (((List.forall₂_and_left _ _).2 ⟨hfree, hqualified⟩).imp ?_)
  rintro atom atom' ⟨hfree, hatom⟩
  exact hatom.text_together hfree store

set_option maxRecDepth 4000 in
/-- A name that is declared, is the name for all values, and is the name of a property too. -/
theorem Engine.render_qualified_typeof : ∃ t t',
    ({} : Engine).destructure.compile "é$\x7ba?.v ?? typeof (v)\x7d\\$\x7bv\x7d" ["a", "v"] =
      .ok t ∧
    Template.qualified ["a", "v"] "v" "é$\x7ba?.v ?? typeof (v)\x7d\\$\x7bv\x7d" =
      "é$\x7bv.a?.v ?? typeof (v.v)\x7d\\$\x7bv\x7d" ∧
    (({} : Engine).single "v").compile
      (Template.qualified ["a", "v"] "v" "é$\x7ba?.v ?? typeof (v)\x7d\\$\x7bv\x7d") [] = .ok t' ∧
    ∀ store, (∃ out, t.render store = .ok out ∧ t'.render store = .ok out) ∨
      ∃ d d', t.render store = .error d ∧ t'.render store = .error d' ∧
        d.kind = d'.kind ∧ d.reason = d'.reason := by
  have hboth : ∃ t, ({} : Engine).destructure.compile "é$\x7ba?.v ?? typeof (v)\x7d\\$\x7bv\x7d"
      ["a", "v"] = .ok t := ⟨_, by cbv⟩
  have hqualified : Template.qualified ["a", "v"] "v" "é$\x7ba?.v ?? typeof (v)\x7d\\$\x7bv\x7d" =
      "é$\x7bv.a?.v ?? typeof (v.v)\x7d\\$\x7bv\x7d" := by
    rw [Template.qualified, Template.places]
    cbv
  have hsingle : ∃ t', (({} : Engine).single "v").compile
      "é$\x7bv.a?.v ?? typeof (v.v)\x7d\\$\x7bv\x7d" [] = .ok t' := ⟨_, by cbv⟩
  obtain ⟨t, h⟩ := hboth
  obtain ⟨t', h'⟩ := hsingle
  rw [← hqualified] at h'
  exact ⟨t, t', h, hqualified, h', Engine.render_qualified h h' (fun _ => by decide)⟩

end TemplateLiteral
