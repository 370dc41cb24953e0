import Mathlib.Data.List.Chain
import TemplateLiteral.Proofs.Expr.Completeness
import TemplateLiteral.Proofs.Token.Lookahead

/-!
# Names as properties of one binding

Where all values are bound to one name, a declared name is read as a property of it. In the tokens
of an expression, `x` becomes `b`, `.` and `x` where `x` is looked up; the names of properties and
names that are not declared stay. What is read from the tokens then is the same tree, with a
property of `b` in the place of each declared name.

## Main definitions

* `Expr.places`: where declared names are looked up
* `Expr.Qualified`: an expression with properties of a binding in the place of declared names
* `Grammar.Qualifies`: the tokens of such an expression

## Main results

* `Grammar.Derives.exists_marks`: how the tokens of a phrase are changed
* `Grammar.Derives.unique`: tokens are read as one expression only
* `Grammar.Derives.isChain_numbers`: what may follow a number in a phrase
-/

namespace TemplateLiteral

namespace Expr

/-- The places in which declared names are looked up, in the order of the text. -/
def places (names : List String) : Expr → List Nat
  | .literal .. => []
  | .name x r => if x ∈ names then [r.start] else []
  | .member receiver _ _ _ _ => receiver.places names
  | .index receiver key _ _ => receiver.places names ++ key.places names
  | .unary _ operand _ => operand.places names
  | .binary _ left right _ => left.places names ++ right.places names
  | .conditional test yes no _ => test.places names ++ (yes.places names ++ no.places names)
  | .group inner _ => inner.places names

/-- The second expression is the first with properties of the binding in the place of declared
names, wherever the two stand. -/
inductive Qualified (names : List String) (binding : String) : Expr → Expr → Prop where
  | literal {value : Literal} {r r' : Region} :
      Qualified names binding (.literal value r) (.literal value r')
  | free {x : String} {r r' : Region} : x ∉ names →
      Qualified names binding (.name x r) (.name x r')
  | declared {x : String} {r r' place' r'' : Region} : x ∈ names →
      Qualified names binding (.name x r) (.member (.name binding r') x place' false r'')
  | member {receiver receiver' : Expr} {x : String} {place place' : Region} {optional : Bool}
      {r r' : Region} : Qualified names binding receiver receiver' →
      Qualified names binding (.member receiver x place optional r)
        (.member receiver' x place' optional r')
  | index {receiver receiver' key key' : Expr} {optional : Bool} {r r' : Region} :
      Qualified names binding receiver receiver' → Qualified names binding key key' →
      Qualified names binding (.index receiver key optional r) (.index receiver' key' optional r')
  | unary {op : UnaryOperator} {operand operand' : Expr} {r r' : Region} :
      Qualified names binding operand operand' →
      Qualified names binding (.unary op operand r) (.unary op operand' r')
  | binary {op : BinaryOperator} {left left' right right' : Expr} {r r' : Region} :
      Qualified names binding left left' → Qualified names binding right right' →
      Qualified names binding (.binary op left right r) (.binary op left' right' r')
  | conditional {test test' yes yes' no no' : Expr} {r r' : Region} :
      Qualified names binding test test' → Qualified names binding yes yes' →
      Qualified names binding no no' →
      Qualified names binding (.conditional test yes no r) (.conditional test' yes' no' r')
  | group {inner inner' : Expr} {r r' : Region} : Qualified names binding inner inner' →
      Qualified names binding (.group inner r) (.group inner' r')

variable {names : List String} {binding : String} {e e' : Expr}

theorem Qualified.isLogical_eq (h : Qualified names binding e e') : e'.isLogical = e.isLogical := by
  cases h <;> rfl

theorem Qualified.unmixed (h : Qualified names binding e e') (he : e.Unmixed) : e'.Unmixed := by
  induction h with
  | literal | free | declared => trivial
  | member _ ih | unary _ ih | group _ ih => exact ih he
  | index _ _ ihReceiver ihKey => exact ⟨ihReceiver he.1, ihKey he.2⟩
  | binary hleft hright ihLeft ihRight =>
    obtain ⟨hmix, hleft', hright'⟩ := he
    refine ⟨fun hop => ?_, ihLeft hleft', ihRight hright'⟩
    rw [hleft.isLogical_eq, hright.isLogical_eq]
    exact hmix hop
  | conditional _ _ _ ihTest ihYes ihNo => exact ⟨ihTest he.1, ihYes he.2.1, ihNo he.2.2⟩

end Expr

namespace Grammar

/-! ## The tokens of a qualified expression -/

/-- The tokens in the place of others. A marked token gets the binding and a point in front of it;
all keep what they are and how they are written, but not where they stand. -/
inductive Qualifies (binding : String) : List (Token × Bool) → List Token → Prop where
  | nil : Qualifies binding [] []
  | keep {t u : Token} {marks : List (Token × Bool)} {us : List Token} :
      u.kind = t.kind → u.text = t.text → Qualifies binding marks us →
      Qualifies binding ((t, false) :: marks) (u :: us)
  | mark {t name period u : Token} {marks : List (Token × Bool)} {us : List Token} :
      name.kind = .name → name.text = binding.toList → period.kind = .period →
      u.kind = t.kind → u.text = t.text → Qualifies binding marks us →
      Qualifies binding ((t, true) :: marks) (name :: period :: u :: us)

/-- The places of marked tokens. -/
def markedPlaces (marks : List (Token × Bool)) : List Nat :=
  (marks.filter Prod.snd).map fun mark => mark.1.region.start

theorem markedPlaces_append (marks marks' : List (Token × Bool)) :
    markedPlaces (marks ++ marks') = markedPlaces marks ++ markedPlaces marks' := by
  simp [markedPlaces]

theorem markedPlaces_keep (t : Token) (marks : List (Token × Bool)) :
    markedPlaces ((t, false) :: marks) = markedPlaces marks := by
  simp [markedPlaces]

theorem markedPlaces_map_keep (ts : List Token) : markedPlaces (ts.map (·, false)) = [] := by
  induction ts with
  | nil => rfl
  | cons t ts ih => rw [List.map_cons, markedPlaces_keep, ih]

section Qualifies

variable {binding : String} {t : Token} {marks marks' : List (Token × Bool)} {us : List Token}

theorem Qualifies.exists_append (h : Qualifies binding (marks ++ marks') us) :
    ∃ front back, us = front ++ back ∧ Qualifies binding marks front ∧
      Qualifies binding marks' back := by
  induction marks generalizing us with
  | nil => exact ⟨[], us, rfl, .nil, h⟩
  | cons mark marks ih =>
    cases h with
    | keep hkind htext h =>
      obtain ⟨front, back, rfl, hfront, hback⟩ := ih h
      exact ⟨_ :: front, back, rfl, .keep hkind htext hfront, hback⟩
    | mark hname hbinding hperiod hkind htext h =>
      obtain ⟨front, back, rfl, hfront, hback⟩ := ih h
      exact ⟨_ :: _ :: _ :: front, back, rfl,
        .mark hname hbinding hperiod hkind htext hfront, hback⟩

theorem Qualifies.exists_keep (h : Qualifies binding ((t, false) :: marks) us) :
    ∃ u rest, us = u :: rest ∧ u.kind = t.kind ∧ u.text = t.text ∧
      Qualifies binding marks rest := by
  cases h with
  | keep hkind htext h => exact ⟨_, _, rfl, hkind, htext, h⟩

theorem Qualifies.exists_map_keep {ts : List Token}
    (h : Qualifies binding (ts.map (·, false) ++ marks) us) : ∃ front back, us = front ++ back ∧
      front.map Token.kind = ts.map Token.kind ∧ Qualifies binding marks back := by
  induction ts generalizing us with
  | nil => exact ⟨[], us, rfl, rfl, h⟩
  | cons t ts ih =>
    obtain ⟨u, rest, rfl, hkind, -, hrest⟩ := h.exists_keep
    obtain ⟨front, back, rfl, hfront, hback⟩ := ih hrest
    exact ⟨u :: front, back, rfl, congrArg₂ List.cons hkind hfront, hback⟩

theorem Qualifies.eq_nil (h : Qualifies binding [] us) : us = [] := by
  cases h
  rfl

end Qualifies

/-- Only names are marked. -/
def OnNames (marks : List (Token × Bool)) : Prop :=
  ∀ mark ∈ marks, mark.2 = true → mark.1.kind = .name

theorem OnNames.nil : OnNames [] := by
  intro mark hmark
  cases hmark

theorem OnNames.keep {t : Token} {marks : List (Token × Bool)} (h : OnNames marks) :
    OnNames ((t, false) :: marks) := by
  intro mark hmark hmarked
  rcases List.mem_cons.1 hmark with rfl | hmark
  · cases hmarked
  · exact h mark hmark hmarked

theorem onNames_map_keep (ts : List Token) : OnNames (ts.map (·, false)) := by
  intro mark hmark hmarked
  obtain ⟨t, -, rfl⟩ := List.mem_map.1 hmark
  cases hmarked

theorem OnNames.append {marks marks' : List (Token × Bool)} (h : OnNames marks)
    (h' : OnNames marks') : OnNames (marks ++ marks') :=
  List.forall_mem_append.2 ⟨h, h'⟩

/-- A phrase of this kind stands where one of the given kind stood, once its names are
qualified. -/
def Phrase.qualified : Phrase → Phrase
  | .primary => .member
  | c => c

/-- The marks of a phrase are its tokens, with a mark at each declared name that is looked up. With
the binding put in front of marked tokens, it is a phrase for the qualified expression. -/
structure Marks (names : List String) (binding : String) (c : Phrase) (ts : List Token) (e : Expr)
    (marks : List (Token × Bool)) : Prop where
  tokens : marks.map Prod.fst = ts
  places : e.places names = markedPlaces marks
  onNames : OnNames marks
  qualify : ∀ us, Qualifies binding marks us →
    ∃ e', Derives c.qualified us e' ∧ e.Qualified names binding e'

theorem Writes.congr {t u : Token} {value : Literal} (h : Writes t value)
    (hkind : u.kind = t.kind) (htext : u.text = t.text) : Writes u value := by
  cases h with
  | null h => exact .null (hkind.trans h)
  | true h => exact .true (hkind.trans h)
  | false h => exact .false (hkind.trans h)
  | number h hread => exact .number (hkind.trans h) (htext ▸ hread)
  | string h hdecode => exact .string (hkind.trans h) (htext ▸ hdecode)

section Marks

variable {names : List String} {binding : String} {c c' : Phrase} {ts : List Token} {e : Expr}
  {marks : List (Token × Bool)}

theorem Marks.of_phrase (h : Marks names binding c ts e marks)
    (hc : ∀ us e', Derives c.qualified us e' → Derives c'.qualified us e') :
    Marks names binding c' ts e marks where
  tokens := h.tokens
  places := h.places
  onNames := h.onNames
  qualify us hus := by
    obtain ⟨e', he', hqualified⟩ := h.qualify us hus
    exact ⟨e', hc us e' he', hqualified⟩

theorem Marks.exists_link {sign name : Token} {optional : Bool} {place r : Region}
    (h : Marks names binding .member ts e marks)
    (hsign : sign.kind = if optional then .optionalPeriod else .period) (hname : Word name.kind) :
    ∃ marks, Marks names binding .member (ts ++ [sign, name])
      (.member e (String.ofList name.text) place optional r) marks := by
  refine ⟨marks ++ [(sign, false), (name, false)], ?_, ?_, h.onNames.append OnNames.nil.keep.keep,
    fun us hus => ?_⟩
  · simp [h.tokens]
  · rw [markedPlaces_append, markedPlaces_keep, markedPlaces_keep]
    exact h.places.trans (List.append_nil _).symm
  · obtain ⟨front, rest, rfl, hfront, hrest⟩ := hus.exists_append
    obtain ⟨u, rest, rfl, hu, -, hrest⟩ := hrest.exists_keep
    obtain ⟨v, rest, rfl, hv, hvText, hrest⟩ := hrest.exists_keep
    obtain rfl := hrest.eq_nil
    obtain ⟨e', he', hqualified⟩ := h.qualify front hfront
    rw [← hvText]
    exact ⟨_, he'.link (hu.trans hsign) (hv ▸ hname), .member hqualified⟩

theorem Marks.exists_computedLink (signs : List Token) {us : List Token} {opening closing : Token}
    {key : Expr} {optional : Bool} {r : Region} {marks' : List (Token × Bool)}
    (h : Marks names binding .member ts e marks)
    (h' : Marks names binding .expression us key marks')
    (hsigns : signs.map Token.kind = if optional then [.optionalPeriod] else [])
    (hopening : opening.kind = .openBracket) (hclosing : closing.kind = .closeBracket) :
    ∃ marks, Marks names binding .member (ts ++ (signs ++ opening :: (us ++ [closing])))
      (.index e key optional r) marks := by
  refine ⟨marks ++ (signs.map (·, false) ++ (opening, false) :: (marks' ++ [(closing, false)])),
    ?_, ?_, h.onNames.append ((onNames_map_keep signs).append
      (h'.onNames.append OnNames.nil.keep).keep), fun ws hws => ?_⟩
  · simp [h.tokens, h'.tokens, Function.comp_def]
  · simp only [Expr.places, markedPlaces_append, markedPlaces_map_keep, markedPlaces_keep, h.places,
      h'.places]
    rw [List.nil_append]
    exact congrArg (markedPlaces marks ++ ·) (List.append_nil _).symm
  · obtain ⟨front, rest, rfl, hfront, hrest⟩ := hws.exists_append
    obtain ⟨signs', rest, rfl, hsigns', hrest⟩ := hrest.exists_map_keep
    obtain ⟨u, rest, rfl, hu, -, hrest⟩ := hrest.exists_keep
    obtain ⟨middle, rest, rfl, hmiddle, hrest⟩ := hrest.exists_append
    obtain ⟨v, rest, rfl, hv, -, hrest⟩ := hrest.exists_keep
    obtain rfl := hrest.eq_nil
    obtain ⟨e', he', hqualified⟩ := h.qualify front hfront
    obtain ⟨key', hkey', hkey⟩ := h'.qualify middle hmiddle
    exact ⟨_, he'.computedLink (hsigns'.trans hsigns) (hu.trans hopening) hkey'
      (hv.trans hclosing), .index hqualified hkey⟩

/-- The tokens of a phrase have marks. -/
theorem Derives.exists_marks (names : List String) (binding : String) (h : Derives c ts e) :
    ∃ marks, Marks names binding c ts e marks := by
  induction h with
  | test _ ih =>
    obtain ⟨marks, h⟩ := ih
    exact ⟨marks, h.of_phrase fun _ _ => .test⟩
  | tighter _ ih =>
    obtain ⟨marks, h⟩ := ih
    exact ⟨marks, h.of_phrase fun _ _ => .tighter⟩
  | operand _ ih =>
    obtain ⟨marks, h⟩ := ih
    exact ⟨marks, h.of_phrase fun _ _ => .operand⟩
  | chain _ ih =>
    obtain ⟨marks, h⟩ := ih
    exact ⟨marks, h.of_phrase fun _ _ => .chain⟩
  | base _ ih =>
    obtain ⟨marks, h⟩ := ih
    exact ⟨marks, h.of_phrase fun _ _ => id⟩
  | @literal t value hwrites =>
    refine ⟨[(t, false)], rfl, rfl, OnNames.nil.keep, fun us hus => ?_⟩
    obtain ⟨u, rest, rfl, hkind, htext, hrest⟩ := hus.exists_keep
    obtain rfl := hrest.eq_nil
    exact ⟨_, .base (.literal (hwrites.congr hkind htext)), .literal⟩
  | @name t hname =>
    by_cases hmem : String.ofList t.text ∈ names
    · refine ⟨[(t, true)], rfl, if_pos hmem, fun mark hmark _ => ?_, fun us hus => ?_⟩
      · rw [List.mem_singleton.1 hmark]
        exact hname
      · -- The name has become a property, so the phrase is no longer a primary expression.
        cases hus with
        | mark hbindingKind hbinding hperiod hkind htext hrest =>
        obtain rfl := hrest.eq_nil
        have hmember := (Derives.base (.name hbindingKind)).property hperiod
          (hkind.trans hname ▸ Word.name)
        rw [hbinding, htext, String.ofList_toList] at hmember
        exact ⟨_, hmember, .declared hmem⟩
    · refine ⟨[(t, false)], rfl, if_neg hmem, OnNames.nil.keep, fun us hus => ?_⟩
      obtain ⟨u, rest, rfl, hkind, htext, hrest⟩ := hus.exists_keep
      obtain rfl := hrest.eq_nil
      have hfree := Derives.base (.name (hkind.trans hname))
      rw [htext] at hfree
      exact ⟨_, hfree, .free hmem⟩
  | @conditional ts us vs question colon test yes no _ hquestion _ hcolon _ ihTest ihYes ihNo =>
    obtain ⟨marks, h⟩ := ihTest
    obtain ⟨marks', h'⟩ := ihYes
    obtain ⟨marks'', h''⟩ := ihNo
    refine ⟨marks ++ (question, false) :: (marks' ++ (colon, false) :: marks''), ?_, ?_,
      h.onNames.append (h'.onNames.append h''.onNames.keep).keep, fun ws hws => ?_⟩
    · simp [h.tokens, h'.tokens, h''.tokens]
    · simp only [Expr.places, markedPlaces_append, markedPlaces_keep, h.places, h'.places,
        h''.places]
    · obtain ⟨front, rest, rfl, hfront, hrest⟩ := hws.exists_append
      obtain ⟨u, rest, rfl, hu, -, hrest⟩ := hrest.exists_keep
      obtain ⟨middle, rest, rfl, hmiddle, hrest⟩ := hrest.exists_append
      obtain ⟨v, back, rfl, hv, -, hback⟩ := hrest.exists_keep
      obtain ⟨test', htest', htest⟩ := h.qualify front hfront
      obtain ⟨yes', hyes', hyes⟩ := h'.qualify middle hmiddle
      obtain ⟨no', hno', hno⟩ := h''.qualify back hback
      exact ⟨_, .conditional htest' (hu.trans hquestion) hyes' (hv.trans hcolon) hno',
        .conditional htest hyes hno⟩
  | @binary op ts us sign left right _ hsign _ ihLeft ihRight =>
    obtain ⟨marks, h⟩ := ihLeft
    obtain ⟨marks', h'⟩ := ihRight
    refine ⟨marks ++ (sign, false) :: marks', ?_, ?_,
      h.onNames.append h'.onNames.keep, fun ws hws => ?_⟩
    · simp [h.tokens, h'.tokens]
    · simp only [Expr.places, markedPlaces_append, markedPlaces_keep, h.places, h'.places]
    · obtain ⟨front, rest, rfl, hfront, hrest⟩ := hws.exists_append
      obtain ⟨u, back, rfl, hu, -, hback⟩ := hrest.exists_keep
      obtain ⟨left', hleft', hleft⟩ := h.qualify front hfront
      obtain ⟨right', hright', hright⟩ := h'.qualify back hback
      exact ⟨_, .binary hleft' (hu.trans hsign) hright', .binary hleft hright⟩
  | @unary op ts sign operand hsign _ ih =>
    obtain ⟨marks, h⟩ := ih
    refine ⟨(sign, false) :: marks, ?_, ?_, h.onNames.keep, fun ws hws => ?_⟩
    · simp [h.tokens]
    · simp only [Expr.places, markedPlaces_keep, h.places]
    · obtain ⟨u, rest, rfl, hu, -, hrest⟩ := hws.exists_keep
      obtain ⟨operand', hoperand', hoperand⟩ := h.qualify rest hrest
      exact ⟨_, .unary (hu ▸ hsign) hoperand', .unary hoperand⟩
  | property _ hperiod hname ih =>
    obtain ⟨marks, h⟩ := ih
    exact h.exists_link hperiod hname
  | optionalProperty _ hperiod hname ih =>
    obtain ⟨marks, h⟩ := ih
    exact h.exists_link hperiod hname
  | index _ hopening _ hclosing ih ihIndex =>
    obtain ⟨marks, h⟩ := ih
    obtain ⟨marks', h'⟩ := ihIndex
    exact h.exists_computedLink [] h' rfl hopening hclosing
  | @optionalIndex ts us period opening closing receiver index _ hperiod hopening _ hclosing ih
    ihIndex =>
    obtain ⟨marks, h⟩ := ih
    obtain ⟨marks', h'⟩ := ihIndex
    exact h.exists_computedLink [period] h' (congrArg (· :: []) hperiod) hopening hclosing
  | @group ts opening closing inner hopening _ hclosing ih =>
    obtain ⟨marks, h⟩ := ih
    refine ⟨(opening, false) :: (marks ++ [(closing, false)]), ?_, ?_,
      (h.onNames.append OnNames.nil.keep).keep, fun ws hws => ?_⟩
    · simp [h.tokens]
    · rw [markedPlaces_keep, markedPlaces_append, markedPlaces_keep]
      exact h.places.trans (List.append_nil _).symm
    · obtain ⟨u, rest, rfl, hu, -, hrest⟩ := hws.exists_keep
      obtain ⟨middle, rest, rfl, hmiddle, hrest⟩ := hrest.exists_append
      obtain ⟨v, rest, rfl, hv, -, hrest⟩ := hrest.exists_keep
      obtain rfl := hrest.eq_nil
      obtain ⟨inner', hinner', hinner⟩ := h.qualify middle hmiddle
      exact ⟨_, .base (.group (hu.trans hopening) hinner' (hv.trans hclosing)), .group hinner⟩

end Marks

/-! ## Tokens of one expression -/

/-- Tokens are read as one expression only. -/
theorem Derives.unique {ts : List Token} {e e' : Expr} (h : Derives .expression ts e)
    (h' : Derives .expression ts e') (hmix : e.Unmixed) (hmix' : e'.Unmixed) : e = e' := by
  -- With room enough for both, each is what is read.
  have hread := Parser.readsAs_of_derives h hmix (max e.charge e'.charge) (.close ⟨0, 0⟩)
    (Nat.le_max_left _ _) trivial
  have hread' := Parser.readsAs_of_derives h' hmix' (max e.charge e'.charge) (.close ⟨0, 0⟩)
    (Nat.le_max_right _ _) trivial
  exact (Prod.mk.inj (Except.ok.inj (hread.symm.trans hread'))).1

/-! ## What follows a number -/

/-- Behind a number stands a sign. -/
def SignAfterNumber (t u : Token) : Prop :=
  t.kind = .number → u.kind.isSign

section Chains

variable {ts us : List Token} {sign : Token}

theorem isChain_cons_of_ne (hus : us.IsChain SignAfterNumber) (hsign : sign.kind ≠ .number) :
    (sign :: us).IsChain SignAfterNumber :=
  List.isChain_cons.2 ⟨fun _ _ hnumber => absurd hnumber hsign, hus⟩

theorem isChain_append_cons (hts : ts.IsChain SignAfterNumber)
    (hus : (sign :: us).IsChain SignAfterNumber) (hsign : sign.kind.isSign) :
    (ts ++ sign :: us).IsChain SignAfterNumber := by
  refine List.isChain_append.2 ⟨hts, hus, fun _ _ u hu _ => ?_⟩
  obtain rfl := Option.some.inj hu
  exact hsign

/-- What stands between two phrases is a sign, and no number. -/
theorem isChain_append_sign (hts : ts.IsChain SignAfterNumber) (hus : us.IsChain SignAfterNumber)
    (hsign : sign.kind.isSign) : (ts ++ sign :: us).IsChain SignAfterNumber := by
  refine isChain_append_cons hts (isChain_cons_of_ne hus ?_) hsign
  intro hnumber
  rw [hnumber] at hsign
  cases hsign

/-- In a phrase nothing but a sign stands behind a number. -/
theorem Derives.isChain_numbers {c : Phrase} {ts : List Token} {e : Expr} (h : Derives c ts e) :
    ts.IsChain SignAfterNumber := by
  induction h with
  | test _ ih | tighter _ ih | operand _ ih | chain _ ih | base _ ih => exact ih
  | literal | name => exact .singleton _
  | conditional _ hquestion _ hcolon _ ihTest ihYes ihNo =>
    exact isChain_append_sign ihTest (isChain_append_sign ihYes ihNo (by rw [hcolon]; rfl))
      (by rw [hquestion]; rfl)
  | binary _ hsign _ ihLeft ihRight =>
    exact isChain_append_sign ihLeft ihRight (by rw [hsign]; rfl)
  | unary hsign _ ih =>
    refine isChain_cons_of_ne ih fun hnumber => ?_
    rw [hnumber] at hsign
    cases hsign
  | property _ hperiod _ ih =>
    exact isChain_append_sign ih (.singleton _) (by rw [hperiod]; rfl)
  | optionalProperty _ hperiod _ ih =>
    exact isChain_append_sign ih (.singleton _) (by rw [hperiod]; rfl)
  | index _ hopening _ hclosing ih ihIndex =>
    exact isChain_append_sign ih (isChain_append_sign ihIndex .nil (by rw [hclosing]; rfl))
      (by rw [hopening]; rfl)
  | optionalIndex _ hperiod hopening _ hclosing ih ihIndex =>
    have hkey := isChain_append_sign ihIndex .nil (by rw [hclosing]; rfl)
    exact isChain_append_sign ih (isChain_cons_of_ne hkey (by rw [hopening]; rintro ⟨⟩))
      (by rw [hperiod]; rfl)
  | group hopening _ hclosing ih =>
    exact isChain_cons_of_ne (isChain_append_sign ih .nil (by rw [hclosing]; rfl))
      (by rw [hopening]; rintro ⟨⟩)

end Chains

end Grammar

end TemplateLiteral
