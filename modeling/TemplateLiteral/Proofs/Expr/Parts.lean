import TemplateLiteral.Proofs.Expr.Completeness
import TemplateLiteral.Proofs.Token.Stretch

/-!
# The parts of an expression

The operands, branches, receivers, indices and inner expressions of a phrase are phrases too, and
their tokens are some of its tokens in a row. Each of them may stand alone: whatever level it is
read on, it is an expression, and neither of the conditions on trees is harder to meet for a part
than for the whole.

## Main definitions

* `Expr.parts`, `Expr.Within`: the parts of an expression, at any depth
* `Expr.ownName?`: the name that an expression writes besides its parts
* `Grammar.Splits`: tokens with phrases among them
* `Grammar.Spans`: a region from the first to the last of some tokens

## Main results

* `Grammar.Derives.splits`: the parts of a phrase are phrases among its tokens
* `Grammar.Derives.spans`: the region of a phrase
* `Grammar.Derives.within`: the parts at any depth
* `Grammar.Derives.parts_ordered`, `Grammar.Derives.parts_inside`: where the parts lie
* `Grammar.Derives.exists_ownName`: where the name lies
-/

namespace TemplateLiteral

/-! ## Parts -/

namespace Expr

/-- The expressions that an expression is put together from, in the order of its text. -/
def parts : Expr → List Expr
  | .literal .. | .name .. => []
  | .member receiver _ _ _ _ => [receiver]
  | .index receiver key _ _ => [receiver, key]
  | .unary _ operand _ => [operand]
  | .binary _ left right _ => [left, right]
  | .conditional test yes no _ => [test, yes, no]
  | .group inner _ => [inner]

/-- The name that an expression writes itself, and where: one that is looked up, or that of a
property. -/
def ownName? : Expr → Option (String × Region)
  | .name x r => some (x, r)
  | .member _ x place _ _ => some (x, place)
  | _ => none

/-- The first expression is the second, or one that the second is put together from. -/
inductive Within : Expr → Expr → Prop where
  | refl (e : Expr) : Within e e
  | part {s p e : Expr} : p ∈ e.parts → Within s p → Within s e

variable {s p e : Expr}

theorem Unmixed.of_mem_parts (h : e.Unmixed) (hp : p ∈ e.parts) : p.Unmixed := by
  cases e with
  | literal | name => cases hp
  | member => exact List.mem_singleton.1 hp ▸ h
  | unary => exact List.mem_singleton.1 hp ▸ h
  | group => exact List.mem_singleton.1 hp ▸ h
  | index receiver key =>
    obtain ⟨hreceiver, hkey⟩ := h
    simp only [parts, List.mem_cons, List.not_mem_nil, or_false] at hp
    rcases hp with rfl | rfl
    · exact hreceiver
    · exact hkey
  | binary op left right =>
    obtain ⟨-, hleft, hright⟩ := h
    simp only [parts, List.mem_cons, List.not_mem_nil, or_false] at hp
    rcases hp with rfl | rfl
    · exact hleft
    · exact hright
  | conditional test yes no =>
    obtain ⟨htest, hyes, hno⟩ := h
    simp only [parts, List.mem_cons, List.not_mem_nil, or_false] at hp
    rcases hp with rfl | rfl | rfl
    · exact htest
    · exact hyes
    · exact hno

theorem charge_le_of_mem_parts (hp : p ∈ e.parts) : p.charge ≤ e.charge := by
  cases e <;> simp only [parts, List.mem_cons, List.not_mem_nil, or_false] at hp <;>
    simp only [charge]
  case member | unary | group =>
    subst hp
    omega
  case index | binary =>
    rcases hp with rfl | rfl <;> omega
  case conditional =>
    rcases hp with rfl | rfl | rfl <;> omega

theorem Within.unmixed (h : s.Within e) (he : e.Unmixed) : s.Unmixed := by
  induction h with
  | refl => exact he
  | part hp _ ih => exact ih (he.of_mem_parts hp)

theorem Within.charge_le (h : s.Within e) : s.charge ≤ e.charge := by
  induction h with
  | refl => exact Nat.le_refl _
  | part hp _ ih => exact Nat.le_trans ih (charge_le_of_mem_parts hp)

end Expr

namespace Grammar

variable {c : Phrase} {ts us vs : List Token} {e s : Expr} {r r' : Region}

/-! ## Phrases that stand alone -/

theorem Derives.level_one {p : Nat} (h : Derives (.level p) ts e) : Derives (.level 1) ts e := by
  cases p with
  | succ p => exact h.loosen (Nat.le_add_left 1 p)
  | zero =>
    generalize hc : Phrase.level 0 = c at h
    cases h with
    | tighter h =>
      cases hc
      exact h
    | @binary op =>
      -- No operator binds as loosely as the level zero.
      obtain hzero := Phrase.level.inj hc
      cases op <;> cases hzero
    | _ => cases hc

/-- A phrase of any kind is an expression. -/
theorem Derives.expression (h : Derives c ts e) : Derives .expression ts e := by
  cases c with
  | expression => exact h
  | level p => exact .test h.level_one
  | unary => exact .test (Derives.operand h).level_one
  | member => exact .test (Derives.operand (.chain h)).level_one
  | primary => exact .test (Derives.operand (.chain (.base h))).level_one

/-! ## Phrases among tokens -/

/-- Among the tokens there are phrases for the expressions, one after the other. -/
inductive Splits : List Token → List Expr → Prop where
  | nil (ts : List Token) : Splits ts []
  | cons (before : List Token) {us after : List Token} {e : Expr} {es : List Expr} :
      Derives .expression us e → Splits after es → Splits (before ++ (us ++ after)) (e :: es)

/-- There is a phrase between other tokens. -/
theorem Derives.splits_singleton (h : Derives c us s) (before after : List Token) :
    Splits (before ++ (us ++ after)) [s] :=
  .cons before h.expression (.nil after)

/-- There is a phrase behind other tokens. -/
theorem Derives.splits_last (h : Derives c us s) (before : List Token) :
    Splits (before ++ us) [s] := by
  have hwhole := h.splits_singleton before []
  rw [List.append_nil] at hwhole
  exact hwhole

/-- The parts of a phrase are phrases among its tokens. -/
theorem Derives.splits (h : Derives c ts e) : Splits ts e.parts := by
  induction h with
  | test _ ih => exact ih
  | tighter _ ih => exact ih
  | operand _ ih => exact ih
  | chain _ ih => exact ih
  | base _ ih => exact ih
  | literal => exact .nil _
  | name => exact .nil _
  | @conditional ts us vs question colon test yes no htest _ hyes _ hno =>
    exact .cons [] htest.expression (.cons [question] hyes (hno.splits_last [colon]))
  | @binary op ts us sign left right hleft _ hright =>
    exact .cons [] hleft.expression (hright.splits_last [sign])
  | @unary op ts sign operand _ hoperand => exact hoperand.splits_last [sign]
  | property hreceiver => exact hreceiver.splits_singleton [] _
  | optionalProperty hreceiver => exact hreceiver.splits_singleton [] _
  | @index ts us opening closing receiver index hreceiver _ hindex _ =>
    exact .cons [] hreceiver.expression (hindex.splits_singleton [opening] [closing])
  | @optionalIndex ts us period opening closing receiver index hreceiver _ _ hindex _ =>
    exact .cons [] hreceiver.expression (hindex.splits_singleton [period, opening] [closing])
  | @group ts opening closing inner _ hinner _ =>
    exact hinner.splits_singleton [opening] [closing]

theorem Splits.exists_of_mem {es : List Expr} (h : Splits ts es) (hs : s ∈ es) :
    ∃ before us after, ts = before ++ (us ++ after) ∧ Derives .expression us s := by
  induction h with
  | nil => cases hs
  | @cons before us after e es he hes ih =>
    rcases List.mem_cons.1 hs with rfl | hs
    · exact ⟨before, us, after, rfl, he⟩
    · obtain ⟨front, vs, back, rfl, hvs⟩ := ih hs
      exact ⟨before ++ (us ++ front), vs, back, by simp, hvs⟩

/-- Every expression in a phrase is a phrase among its tokens. -/
theorem Derives.within (h : Derives c ts e) (hs : s.Within e) :
    ∃ before us after, ts = before ++ (us ++ after) ∧ Derives .expression us s := by
  induction hs generalizing c ts with
  | refl => exact ⟨[], ts, [], (List.append_nil ts).symm, h.expression⟩
  | part hp _ ih =>
    obtain ⟨before, us, after, rfl, hus⟩ := h.splits.exists_of_mem hp
    obtain ⟨front, vs, back, rfl, hvs⟩ := ih hus
    exact ⟨before ++ front, vs, back ++ after, by simp, hvs⟩

/-! ## Regions of phrases -/

/-- The region goes from the beginning of the first token to the end of the last. -/
structure Spans (ts : List Token) (r : Region) : Prop where
  first : ∃ t us, ts = t :: us ∧ r.start = t.region.start
  last : ∃ us t, ts = us ++ [t] ∧ r.stop = t.region.stop

theorem spans_singleton (t : Token) : Spans [t] t.region :=
  ⟨⟨t, [], rfl, rfl⟩, ⟨[], t, rfl, rfl⟩⟩

theorem Spans.start_le (h : Spans ts r) (hlaid : Laid ts) {t : Token} (ht : t ∈ ts) :
    r.start ≤ t.region.start := by
  obtain ⟨u, us, rfl, hstart⟩ := h.first
  rw [hstart]
  rcases List.mem_cons.1 ht with rfl | ht
  · exact Nat.le_refl _
  · have hbefore := (List.pairwise_cons.1 hlaid.1).1 t ht
    have hpos := hlaid.2 u List.mem_cons_self
    omega

theorem Spans.le_stop (h : Spans ts r) (hlaid : Laid ts) {t : Token} (ht : t ∈ ts) :
    t.region.stop ≤ r.stop := by
  obtain ⟨us, u, rfl, hstop⟩ := h.last
  rw [hstop]
  rcases List.mem_append.1 ht with ht | ht
  · have hbefore := (List.pairwise_append.1 hlaid.1).2.2 t ht u List.mem_cons_self
    have hpos := hlaid.2 u (List.mem_append_right us List.mem_cons_self)
    omega
  · rw [List.mem_singleton.1 ht]

theorem Spans.start_lt_stop (h : Spans ts r) (hlaid : Laid ts) : r.start < r.stop := by
  obtain ⟨t, us, rfl, hstart⟩ := h.first
  rw [hstart]
  exact Nat.lt_of_lt_of_le (hlaid.2 t List.mem_cons_self) (h.le_stop hlaid List.mem_cons_self)

/-- What stands in front of some tokens ends before what stands behind them begins. -/
theorem Spans.stop_le_start (h : Spans ts r) (h' : Spans us r')
    (hlaid : Laid (ts ++ us)) : r.stop ≤ r'.start := by
  obtain ⟨front, t, rfl, hstop⟩ := h.last
  obtain ⟨u, back, rfl, hstart⟩ := h'.first
  rw [hstop, hstart]
  exact (List.pairwise_append.1 hlaid.1).2.2 t (List.mem_append_right front List.mem_cons_self) u
    List.mem_cons_self

/-- Two regions are covered from the first token of the one to the last of the other. -/
theorem spans_cover (h : Laid ts → Spans ts r) (vs : List Token) (h' : Laid us → Spans us r')
    (hlaid : Laid (ts ++ (vs ++ us))) : Spans (ts ++ (vs ++ us)) (r.cover r') := by
  have hts : Laid ts := hlaid.sublist (List.sublist_append_left ts (vs ++ us))
  have hus : Laid us := hlaid.sublist
    ((List.sublist_append_right vs us).trans (List.sublist_append_right ts (vs ++ us)))
  have hboth : Laid (ts ++ us) := hlaid.sublist
    (List.Sublist.append (List.Sublist.refl ts) (List.sublist_append_right vs us))
  -- The first region ends before the second begins, whatever stands between them.
  have hordered := (h hts).stop_le_start (h' hus) hboth
  have hpos := (h hts).start_lt_stop hts
  have hpos' := (h' hus).start_lt_stop hus
  obtain ⟨t, front, rfl, hstart⟩ := (h hts).first
  obtain ⟨back, u, rfl, hstop⟩ := (h' hus).last
  refine ⟨⟨t, front ++ (vs ++ (back ++ [u])), rfl, ?_⟩, ⟨t :: front ++ (vs ++ back), u, ?_, ?_⟩⟩
  · rw [← hstart]
    exact Nat.min_eq_left (by omega)
  · simp
  · rw [← hstop]
    exact Nat.max_eq_right (by omega)

/-- The region of a phrase goes from the beginning of its first token to the end of its last. -/
theorem Derives.spans (h : Derives c ts e) (hlaid : Laid ts) : Spans ts e.region := by
  have hsingle : ∀ t : Token, Laid [t] → Spans [t] t.region := fun t _ => spans_singleton t
  -- Each constructor covers what stands at its two ends, a part or a single token.
  induction h with
  | test _ ih => exact ih hlaid
  | tighter _ ih => exact ih hlaid
  | operand _ ih => exact ih hlaid
  | chain _ ih => exact ih hlaid
  | base _ ih => exact ih hlaid
  | @literal t => exact spans_singleton t
  | @name t => exact spans_singleton t
  | @conditional ts us vs question colon test yes no _ _ _ _ _ ihTest _ ihNo =>
    have hsplit : question :: (us ++ colon :: vs) = (question :: (us ++ [colon])) ++ vs := by simp
    rw [hsplit] at hlaid ⊢
    exact spans_cover ihTest _ ihNo hlaid
  | @binary op ts us sign left right _ _ _ ihLeft ihRight =>
    exact spans_cover ihLeft [sign] ihRight hlaid
  | @unary op ts sign operand _ _ ih => exact spans_cover (hsingle sign) [] ih hlaid
  | @property ts period name receiver _ _ _ ih =>
    exact spans_cover ih [period] (hsingle name) hlaid
  | @optionalProperty ts period name receiver _ _ _ ih =>
    exact spans_cover ih [period] (hsingle name) hlaid
  | @index ts us opening closing receiver index _ _ _ _ ih =>
    exact spans_cover ih (opening :: us) (hsingle closing) hlaid
  | @optionalIndex ts us period opening closing receiver index _ _ _ _ _ ih =>
    exact spans_cover ih (period :: opening :: us) (hsingle closing) hlaid
  | @group ts opening closing inner _ _ _ _ =>
    exact spans_cover (hsingle opening) ts (hsingle closing) hlaid

/-- The parts of a phrase lie in its region. -/
theorem Derives.parts_inside (h : Derives c ts e) (hlaid : Laid ts) (hs : s ∈ e.parts) :
    e.region.start ≤ s.region.start ∧ s.region.stop ≤ e.region.stop := by
  obtain ⟨before, us, after, rfl, hus⟩ := h.splits.exists_of_mem hs
  have hspans := h.spans hlaid
  have hpart := hus.spans (hlaid.sublist
    ((List.sublist_append_left us after).trans (List.sublist_append_right before _)))
  obtain ⟨t, back, hfirst, hstart⟩ := hpart.first
  obtain ⟨front, u, hlast, hstop⟩ := hpart.last
  rw [hstart, hstop]
  refine ⟨hspans.start_le hlaid ?_, hspans.le_stop hlaid ?_⟩
  · simp [hfirst]
  · simp [hlast]

theorem Splits.ordered {es : List Expr} (h : Splits ts es) (hlaid : Laid ts) :
    es.Pairwise fun a b => a.region.stop ≤ b.region.start := by
  induction h with
  | nil => exact .nil
  | @cons before us after e es he hes ih =>
    have hrest : Laid (us ++ after) := hlaid.sublist (List.sublist_append_right before _)
    refine List.pairwise_cons.2
      ⟨fun s hs => ?_, ih (hrest.sublist (List.sublist_append_right us after))⟩
    obtain ⟨front, vs, back, rfl, hvs⟩ := hes.exists_of_mem hs
    have hinside : (us ++ vs).Sublist (us ++ (front ++ (vs ++ back))) :=
      List.Sublist.append (List.Sublist.refl us)
        ((List.sublist_append_left vs back).trans (List.sublist_append_right front _))
    have hboth := hrest.sublist hinside
    exact (he.spans (hboth.sublist (List.sublist_append_left us vs))).stop_le_start
      (hvs.spans (hboth.sublist (List.sublist_append_right us vs))) hboth

/-- The parts of a phrase stand one after the other, and no two overlap. -/
theorem Derives.parts_ordered (h : Derives c ts e) (hlaid : Laid ts) :
    e.parts.Pairwise fun a b => a.region.stop ≤ b.region.start :=
  h.splits.ordered hlaid

/-! ## Names -/

/-- The name that a phrase writes itself is its last token, behind all of its parts. -/
theorem Derives.exists_ownName (h : Derives c ts e) {x : String} {place : Region}
    (hname : e.ownName? = some (x, place)) :
    ∃ us t, ts = us ++ [t] ∧ x = String.ofList t.text ∧ place = t.region ∧
      Splits us e.parts := by
  induction h with
  | test _ ih | tighter _ ih | operand _ ih | chain _ ih | base _ ih => exact ih hname
  | conditional | binary | unary | index | optionalIndex | literal | group => cases hname
  | @name t =>
    obtain ⟨rfl, rfl⟩ := Prod.mk.inj (Option.some.inj hname)
    exact ⟨[], t, rfl, rfl, rfl, .nil []⟩
  | @property ts period name receiver hreceiver =>
    obtain ⟨rfl, rfl⟩ := Prod.mk.inj (Option.some.inj hname)
    exact ⟨ts ++ [period], name, by simp, rfl, rfl, hreceiver.splits_singleton [] [period]⟩
  | @optionalProperty ts period name receiver hreceiver =>
    obtain ⟨rfl, rfl⟩ := Prod.mk.inj (Option.some.inj hname)
    exact ⟨ts ++ [period], name, by simp, rfl, rfl, hreceiver.splits_singleton [] [period]⟩

/-- What stands in front of a token ends before the token begins. -/
theorem Splits.stop_le_start {es : List Expr} {t : Token} (h : Splits ts es)
    (hlaid : Laid (ts ++ [t])) (hs : s ∈ es) : s.region.stop ≤ t.region.start := by
  obtain ⟨before, us, after, rfl, hus⟩ := h.exists_of_mem hs
  have hinside : (us ++ [t]).Sublist (before ++ (us ++ after) ++ [t]) :=
    List.Sublist.append ((List.sublist_append_left us after).trans
      (List.sublist_append_right before _)) (List.Sublist.refl [t])
  have hboth := hlaid.sublist hinside
  exact (hus.spans (hboth.sublist (List.sublist_append_left us [t]))).stop_le_start
    (spans_singleton t) hboth

end Grammar

end TemplateLiteral
