import TemplateLiteral.Proofs.Expr.Grammar
import TemplateLiteral.Proofs.Outcome

/-!
# What is read as an expression is one

Reading takes tokens from the front of a stream. What it has taken when it succeeds is a phrase
of the grammar with the tree that it gives, `??` is not mixed with `&&` and `||` in it, and it
is nested no deeper than the room allows.

A chain is read from the left, so the functions for operators and links are about a chain that
has begun. Its beginning is a phrase already, and the room that is left is less than the room
that the chain had at first by the length of the beginning. The operator that comes next never
binds more tightly than the level of the beginning: this is what the stratified grammar asks
of a left operand.

## Main definitions

* `TokenStream.StopsAt`: no operator of a level or a tighter one comes next
* `Parser.Begins`: a stream begins with a phrase

## Main results

* `Parser.expression_sound`
-/

namespace TemplateLiteral

open Grammar

namespace TokenStream

/-- No operator that binds at least as tightly as the level comes next. -/
def StopsAt (level : Nat) (tokens : TokenStream) : Prop :=
  ∀ t rest op, tokens = .token t rest → t.kind = .operator op → op.precedence < level

theorem StopsAt.mono {p q : Nat} {tokens : TokenStream} (h : tokens.StopsAt p) (hpq : p ≤ q) :
    tokens.StopsAt q :=
  fun t rest op ht hop => Nat.lt_of_lt_of_le (h t rest op ht hop) hpq

end TokenStream

namespace Parser

/-! ## What each function does when it succeeds -/

section Inversion

variable {room least : Nat} {tokens rest : TokenStream} {e left : Expr}

theorem expect_eq_ok {wanted : TokenKind} {t : Token}
    (h : expect wanted tokens = .ok (t, rest)) : tokens = .token t rest ∧ t.kind = wanted := by
  unfold expect at h
  split at h
  · split at h
    · obtain ⟨rfl, rfl⟩ := Prod.mk.inj (Except.ok.inj h)
      exact ⟨rfl, ‹_›⟩
    · cases h
  · cases h

theorem propertyName_eq_ok {t : Token} (h : propertyName tokens = .ok (t, rest)) :
    tokens = .token t rest ∧ Word t.kind := by
  unfold propertyName at h
  split at h
  · split at h
    · obtain ⟨rfl, rfl⟩ := Prod.mk.inj (Except.ok.inj h)
      next hkind => exact ⟨rfl, hkind ▸ .name⟩
    · obtain ⟨rfl, rfl⟩ := Prod.mk.inj (Except.ok.inj h)
      next hkind => exact ⟨rfl, hkind ▸ .reserved⟩
    · obtain ⟨rfl, rfl⟩ := Prod.mk.inj (Except.ok.inj h)
      next keyword hkind => exact ⟨rfl, hkind ▸ .keyword keyword⟩
    · cases h
  · cases h

theorem unarySign_of_unaryOperator? {kind : TokenKind} {op : UnaryOperator}
    (h : unaryOperator? kind = some op) : UnarySign kind op := by
  unfold unaryOperator? at h
  split at h
  · exact Option.some.inj h ▸ .not
  · exact Option.some.inj h ▸ .negate
  · exact Option.some.inj h ▸ .plus
  · exact Option.some.inj h ▸ .typeof
  · cases h

theorem writes_of_literal? {t : Token} {value : Literal} (h : literal? t = some (.ok value)) :
    Writes t value := by
  unfold literal? at h
  split at h
  · split at h
    · cases h
      exact .number ‹_› ‹_›
    · cases h
  · split at h
    · cases h
      exact .string ‹_› ‹_›
    · cases h
  · cases h
    exact .true ‹_›
  · cases h
    exact .false ‹_›
  · cases h
    exact .null ‹_›
  · cases h

theorem expression_eq_ok (h : expression room tokens = .ok (e, rest)) :
    ∃ less, room = less + 1 ∧ conditional less tokens = .ok (e, rest) := by
  unfold expression at h
  split at h
  · cases h
  · cases h
  · cases h
  · exact ⟨_, rfl, h⟩

theorem conditional_eq_ok (h : conditional room tokens = .ok (e, rest)) :
    binary room 1 tokens = .ok (e, rest) ∨
    ∃ test question afterTest yes colon afterYes no,
      binary room 1 tokens = .ok (test, .token question afterTest) ∧
      question.kind = .question ∧
      expression room afterTest = .ok (yes, .token colon afterYes) ∧ colon.kind = .colon ∧
      expression room afterYes = .ok (no, rest) ∧
      e = .conditional test yes no (test.region.cover no.region) := by
  unfold conditional at h
  obtain ⟨⟨test, afterTest⟩, htest, h⟩ := bind_eq_ok_iff.1 h
  dsimp only at h
  split at h
  · obtain ⟨⟨yes, afterYes⟩, hyes, h⟩ := bind_eq_ok_iff.1 h
    obtain ⟨⟨colon, beforeNo⟩, hcolon, h⟩ := bind_eq_ok_iff.1 h
    obtain ⟨⟨no, afterNo⟩, hno, h⟩ := bind_eq_ok_iff.1 h
    obtain ⟨rfl, hkind⟩ := expect_eq_ok hcolon
    cases h
    exact .inr ⟨test, _, _, yes, colon, beforeNo, no, htest, rfl, hyes, hkind, hno, rfl⟩
  · cases h
  · cases h
    exact .inl htest

theorem operators_eq_ok (h : operators room least left tokens = .ok (e, rest)) :
    (e = left ∧ rest = tokens ∧ tokens.StopsAt least) ∨
    ∃ less op sign afterSign right afterRight,
      room = less + 1 ∧ tokens = .token sign afterSign ∧ sign.kind = .operator op ∧
      least ≤ op.precedence ∧
      binary less (op.precedence + 1) afterSign = .ok (right, afterRight) ∧
      left.clashesWith op = false ∧ right.clashesWith op = false ∧
      operators less least (.binary op left right (left.region.cover right.region)) afterRight =
        .ok (e, rest) := by
  unfold operators at h
  split at h
  next op _ _ afterSign =>
    split at h
    next htight =>
      split at h
      · cases h
      next less =>
        obtain ⟨⟨right, afterRight⟩, hright, h⟩ := bind_eq_ok_iff.1 h
        dsimp only at h
        split at h
        · cases h
        next hclash =>
          simp only [Bool.or_eq_true, not_or, Bool.not_eq_true] at hclash
          exact .inr ⟨less, op, _, afterSign, right, afterRight, rfl, rfl, rfl, htight, hright,
            hclash.1, hclash.2, h⟩
    next hloose =>
      -- An operator comes next, but one that binds less tightly than the level asks for.
      cases h
      refine .inl ⟨rfl, rfl, ?_⟩
      rintro t rest op' ⟨⟩ hop
      cases hop
      exact Nat.lt_of_not_le hloose
  · cases h
  next hother _ =>
    -- What comes next is no operator at all, so nothing is asked of its level.
    cases h
    refine .inl ⟨rfl, rfl, ?_⟩
    rintro ⟨kind, text, region⟩ rest op rfl hop
    dsimp only at hop
    subst hop
    exact (hother op text region rest rfl).elim

theorem unary_eq_ok (h : unary room tokens = .ok (e, rest)) :
    member room tokens = .ok (e, rest) ∨
    ∃ less op sign afterSign operand,
      room = less + 1 ∧ tokens = .token sign afterSign ∧ UnarySign sign.kind op ∧
      unary less afterSign = .ok (operand, rest) ∧
      e = .unary op operand (sign.region.cover operand.region) := by
  unfold unary at h
  split at h
  next sign afterSign =>
    split at h
    next op hop =>
      split at h
      · cases h
      next less =>
        obtain ⟨⟨operand, afterOperand⟩, hoperand, h⟩ := bind_eq_ok_iff.1 h
        cases h
        exact .inr ⟨less, op, sign, afterSign, operand, rfl, rfl,
          unarySign_of_unaryOperator? hop, hoperand, rfl⟩
    · exact .inl h
  · exact .inl h

theorem primary_eq_ok (h : primary room tokens = .ok (e, rest)) :
    (∃ t value, tokens = .token t rest ∧ Writes t value ∧ e = .literal value t.region) ∨
    (∃ t, tokens = .token t rest ∧ t.kind = .name ∧
      e = .name (String.ofList t.text) t.region) ∨
    ∃ opening afterOpening inner closing,
      tokens = .token opening afterOpening ∧ opening.kind = .openParen ∧
      expression room afterOpening = .ok (inner, .token closing rest) ∧
      closing.kind = .closeParen ∧ e = .group inner (opening.region.cover closing.region) := by
  unfold primary at h
  split at h
  next t afterToken =>
    split at h
    next value hvalue =>
      obtain ⟨value, rfl, h⟩ := bind_eq_ok_iff.1 h
      cases h
      exact .inl ⟨t, value, rfl, writes_of_literal? hvalue, rfl⟩
    · split at h
      next hkind =>
        cases h
        exact .inr (.inl ⟨t, rfl, hkind, rfl⟩)
      next hkind =>
        obtain ⟨⟨inner, afterInner⟩, hinner, h⟩ := bind_eq_ok_iff.1 h
        obtain ⟨⟨closing, afterClosing⟩, hclosing, hresult⟩ := bind_eq_ok_iff.1 h
        cases hresult
        obtain ⟨rfl, hclosed⟩ := expect_eq_ok hclosing
        exact .inr (.inr ⟨t, afterToken, inner, closing, rfl, hkind, hinner, hclosed, rfl⟩)
      · cases h
      · cases h
  · cases h

theorem index_eq_ok {receiver : Expr} {optional : Bool}
    (h : (do
      let (index, tokens) ← expression room tokens
      let (close, tokens) ← expect .closeBracket tokens
      links room (.index receiver index optional (receiver.region.cover close.region)) tokens) =
        .ok (e, rest)) :
    ∃ index closing afterClosing,
      expression room tokens = .ok (index, .token closing afterClosing) ∧
      closing.kind = .closeBracket ∧
      links room (.index receiver index optional (receiver.region.cover closing.region))
        afterClosing = .ok (e, rest) := by
  obtain ⟨⟨index, afterIndex⟩, hindex, h⟩ := bind_eq_ok_iff.1 h
  obtain ⟨⟨closing, afterClosing⟩, hclosing, hresult⟩ := bind_eq_ok_iff.1 h
  obtain ⟨rfl, hclosed⟩ := expect_eq_ok hclosing
  exact ⟨index, closing, afterClosing, hindex, hclosed, hresult⟩

theorem property_eq_ok {receiver : Expr} {optional : Bool}
    (h : (do
      let (name, tokens) ← propertyName tokens
      links room (.member receiver (String.ofList name.text) name.region optional
        (receiver.region.cover name.region)) tokens) = .ok (e, rest)) :
    ∃ name afterName, tokens = .token name afterName ∧ Word name.kind ∧
      links room (.member receiver (String.ofList name.text) name.region optional
        (receiver.region.cover name.region)) afterName = .ok (e, rest) := by
  obtain ⟨⟨name, afterName⟩, hname, hresult⟩ := bind_eq_ok_iff.1 h
  obtain ⟨rfl, hword⟩ := propertyName_eq_ok hname
  exact ⟨name, afterName, rfl, hword, hresult⟩

theorem links_eq_ok {receiver : Expr} (h : links room receiver tokens = .ok (e, rest)) :
    (e = receiver ∧ rest = tokens) ∨
    (∃ less sign name afterName optional, room = less + 1 ∧
      tokens = .token sign (.token name afterName) ∧
      sign.kind = (if optional then .optionalPeriod else .period) ∧ Word name.kind ∧
      links less (.member receiver (String.ofList name.text) name.region optional
        (receiver.region.cover name.region)) afterName = .ok (e, rest)) ∨
    ∃ less signs opening afterOpening index closing afterClosing optional, room = less + 1 ∧
      tokens = .prepend (signs ++ [opening]) afterOpening ∧
      signs.map Token.kind = (if optional then [.optionalPeriod] else []) ∧
      opening.kind = .openBracket ∧
      expression less afterOpening = .ok (index, .token closing afterClosing) ∧
      closing.kind = .closeBracket ∧
      links less (.index receiver index optional (receiver.region.cover closing.region))
        afterClosing = .ok (e, rest) := by
  unfold links at h
  split at h
  -- Every link takes a level of room, which is asked for before the link is read.
  · split at h
    · cases h
    next less =>
      obtain ⟨name, afterName, rfl, hword, h⟩ := property_eq_ok h
      exact .inr (.inl ⟨less, _, name, afterName, false, rfl, rfl, rfl, hword, h⟩)
  · split at h
    · cases h
    next less =>
      -- A bracket or a name may follow the optional sign; a call is a fault of its own.
      split at h
      next afterOpening =>
        obtain ⟨index, closing, afterClosing, hindex, hclosed, h⟩ := index_eq_ok h
        exact .inr (.inr ⟨less, [_], _, afterOpening, index, closing, afterClosing, true, rfl,
          rfl, rfl, rfl, hindex, hclosed, h⟩)
      · cases h
      · obtain ⟨name, afterName, rfl, hword, h⟩ := property_eq_ok h
        exact .inr (.inl ⟨less, _, name, afterName, true, rfl, rfl, rfl, hword, h⟩)
  · split at h
    · cases h
    next less =>
      obtain ⟨index, closing, afterClosing, hindex, hclosed, h⟩ := index_eq_ok h
      exact .inr (.inr ⟨less, [], _, _, index, closing, afterClosing, false, rfl,
        rfl, rfl, rfl, hindex, hclosed, h⟩)
  · cases h
  · cases h
  · cases h
    exact .inl ⟨rfl, rfl⟩

end Inversion

/-! ## What has been read -/

/-- The stream begins with a phrase of the given kind, which keeps to the conditions on trees and
takes no more room than there is. -/
def Begins (tokens : TokenStream) (c : Phrase) (room : Nat) (e : Expr) (rest : TokenStream) :
    Prop :=
  ∃ ts, tokens = .prepend ts rest ∧ Derives c ts e ∧ e.Unmixed ∧ e.charge ≤ room

theorem isLogical_eq_false_of_clashesWith {operand : Expr}
    (h : operand.clashesWith .nullish = false) : operand.isLogical = false := by
  unfold Expr.clashesWith at h
  unfold Expr.isLogical
  split at h
  next op hop =>
    rw [hop]
    simp only [BinaryOperator.clashes, Bool.or_eq_false_iff] at h
    simpa using h.1
  next hop => rw [hop]; rfl

mutual

/-- What is read as an expression is one, and one level of the room is taken by it as a whole. -/
theorem expression_sound {room : Nat} {tokens rest : TokenStream} {e : Expr}
    (h : expression room tokens = .ok (e, rest)) :
    ∃ less, room = less + 1 ∧ Begins tokens .expression less e rest := by
  obtain ⟨less, rfl, hinner⟩ := expression_eq_ok h
  exact ⟨less, rfl, conditional_sound hinner⟩
termination_by (room, 0)

theorem conditional_sound {room : Nat} {tokens rest : TokenStream} {e : Expr}
    (h : conditional room tokens = .ok (e, rest)) :
    Begins tokens .expression room e rest := by
  rcases conditional_eq_ok h with htest | ⟨test, question, afterTest, yes, colon, afterYes, no,
    htest, hquestion, hyes, hcolon, hno, rfl⟩
  · obtain ⟨⟨ts, rfl, hts, hmix, hroom⟩, -⟩ := binary_sound htest (by decide)
    exact ⟨ts, rfl, hts.test, hmix, hroom⟩
  -- Both branches have one level of room less than the test, which the charge accounts for.
  · obtain ⟨⟨ts, rfl, hts, htestMix, htestRoom⟩, -⟩ := binary_sound htest (by decide)
    obtain ⟨less, hless, us, rfl, hus, hyesMix, hyesRoom⟩ := expression_sound hyes
    obtain ⟨less', hless', vs, rfl, hvs, hnoMix, hnoRoom⟩ := expression_sound hno
    refine ⟨ts ++ question :: (us ++ colon :: vs), by simp, ?_, ⟨htestMix, hyesMix, hnoMix⟩, ?_⟩
    · exact hts.conditional hquestion hus hcolon hvs
    · simp only [Expr.charge]
      omega
termination_by (room, 5)

theorem binary_sound {room least : Nat} {tokens rest : TokenStream} {e : Expr}
    (h : binary room least tokens = .ok (e, rest)) (hleast : least ≤ 8) :
    Begins tokens (.level least) room e rest ∧ rest.StopsAt least := by
  unfold binary at h
  obtain ⟨⟨left, afterLeft⟩, hleft, hgoOn⟩ := bind_eq_ok_iff.1 h
  obtain ⟨ts, rfl, hts, hmix, hroom⟩ := unary_sound hleft
  -- The chain begins with its first operand alone, on a level that no operator exceeds.
  have hnext : afterLeft.StopsAt (8 + 1) := fun _ _ op _ _ =>
    Nat.lt_succ_of_lt (Nat.lt_succ_of_le op.precedence_le)
  have hcount : room = left.operatorCount + room := by
    rw [hts.operatorCount_eq_zero, Nat.zero_add]
  obtain ⟨⟨us, rfl, hus, hresult⟩, hstop⟩ :=
    operators_sound hgoOn hts.operand hleast hnext hmix hroom hcount
  exact ⟨⟨ts ++ us, by simp, hus, hresult⟩, hstop⟩
termination_by (room, 4)

/-- The chain has begun with the tokens `ts`, whose tree is `left`, on a level that the next
operator does not exceed. -/
theorem operators_sound {room least level start : Nat} {tokens rest : TokenStream}
    {left e : Expr} {ts : List Token}
    (h : operators room least left tokens = .ok (e, rest))
    (hleft : Derives (.level level) ts left) (hlevel : least ≤ level)
    (hnext : tokens.StopsAt (level + 1)) (hmix : left.Unmixed) (hcharge : left.charge ≤ start)
    (hroom : start = left.operatorCount + room) :
    (∃ us, tokens = .prepend us rest ∧ Derives (.level least) (ts ++ us) e ∧ e.Unmixed ∧
      e.charge ≤ start) ∧ rest.StopsAt least := by
  rcases operators_eq_ok h with ⟨rfl, rfl, hstop⟩ | ⟨less, op, sign, afterSign, right, afterRight,
    rfl, rfl, hsign, htight, hright, hleftClash, hrightClash, hgoOn⟩
  · exact ⟨⟨[], rfl, by simpa using hleft.loosen hlevel, hmix, hcharge⟩, hstop⟩
  -- The chain so far becomes the left operand, and the level drops to that of the operator. The
  -- right operand has been read as far as tighter operators go, so the next is no tighter.
  · have hop : op.precedence ≤ level := Nat.le_of_lt_succ (hnext sign afterSign op rfl hsign)
    obtain ⟨⟨us, rfl, hus, hrightMix, hrightRoom⟩, hstop⟩ :=
      binary_sound hright (Nat.succ_le_succ op.precedence_le)
    have hnode := (hleft.loosen hop).binary hsign hus
    have hnodeMix : (Expr.binary op left right (left.region.cover right.region)).Unmixed := by
      refine ⟨?_, hmix, hrightMix⟩
      rintro rfl
      exact ⟨isLogical_eq_false_of_clashesWith hleftClash,
        isLogical_eq_false_of_clashesWith hrightClash⟩
    have hnodeCharge : max left.charge (left.operatorCount + 1 + right.charge) ≤ start := by omega
    have hnodeRoom : start = left.operatorCount + 1 + less := by omega
    obtain ⟨⟨vs, rfl, hvs, hresult⟩, hend⟩ := operators_sound hgoOn hnode htight
      hstop hnodeMix hnodeCharge hnodeRoom
    exact ⟨⟨sign :: (us ++ vs), by simp, by simpa using hvs, hresult⟩, hend⟩
termination_by (room, 0)

theorem unary_sound {room : Nat} {tokens rest : TokenStream} {e : Expr}
    (h : unary room tokens = .ok (e, rest)) :
    Begins tokens .unary room e rest := by
  rcases unary_eq_ok h with h | ⟨less, op, sign, afterSign, operand, rfl, rfl, hsign, hoperand,
    rfl⟩
  · obtain ⟨ts, rfl, hts, hmix, hroom⟩ := member_sound h
    exact ⟨ts, rfl, hts.chain, hmix, hroom⟩
  · obtain ⟨ts, rfl, hts, hmix, hroom⟩ := unary_sound hoperand
    exact ⟨sign :: ts, rfl, hts.unary hsign, hmix, Nat.succ_le_succ hroom⟩
termination_by (room, 3)

theorem member_sound {room : Nat} {tokens rest : TokenStream} {e : Expr}
    (h : member room tokens = .ok (e, rest)) :
    Begins tokens .member room e rest := by
  unfold member at h
  obtain ⟨⟨receiver, afterReceiver⟩, hreceiver, hgoOn⟩ := bind_eq_ok_iff.1 h
  obtain ⟨ts, rfl, hts, hmix, hroom⟩ := primary_sound hreceiver
  have hcount : room = receiver.linkCount + room := by rw [hts.linkCount_eq_zero, Nat.zero_add]
  obtain ⟨us, rfl, hus, hresult⟩ := links_sound hgoOn hts.base hmix hroom hcount
  exact ⟨ts ++ us, by simp, hus, hresult⟩
termination_by (room, 2)

/-- The chain has begun with the tokens `ts`, whose tree is `receiver`. -/
theorem links_sound {room start : Nat} {tokens rest : TokenStream} {receiver e : Expr}
    {ts : List Token}
    (h : links room receiver tokens = .ok (e, rest)) (hreceiver : Derives .member ts receiver)
    (hmix : receiver.Unmixed) (hcharge : receiver.charge ≤ start)
    (hroom : start = receiver.linkCount + room) :
    ∃ us, tokens = .prepend us rest ∧ Derives .member (ts ++ us) e ∧ e.Unmixed ∧
      e.charge ≤ start := by
  rcases links_eq_ok h with ⟨rfl, rfl⟩ | ⟨less, sign, name, afterName, optional, rfl, rfl, hsign,
    hword, hgoOn⟩ | ⟨less, signs, opening, afterOpening, index, closing, afterClosing, optional,
    rfl, rfl, hsigns, hopening, hindex, hclosing, hgoOn⟩
  · exact ⟨[], rfl, by simpa using hreceiver, hmix, hcharge⟩
  -- In both cases the room shrinks as the chain grows, and their sum stays what it was.
  · have hlink := hreceiver.link hsign hword
    have hlinkCharge : max receiver.charge (receiver.linkCount + 1) ≤ start := by omega
    have hlinkRoom : start = receiver.linkCount + 1 + less := by omega
    obtain ⟨us, rfl, hus, hresult⟩ := links_sound hgoOn hlink hmix hlinkCharge hlinkRoom
    exact ⟨sign :: name :: us, rfl, by simpa using hus, hresult⟩
  · obtain ⟨least, rfl, us, rfl, hus, hindexMix, hindexRoom⟩ := expression_sound hindex
    have hlink := hreceiver.computedLink hsigns hopening hus hclosing
    have hlinkCharge :
        max receiver.charge (receiver.linkCount + 1 + (index.charge + 1)) ≤ start := by
      omega
    have hlinkRoom : start = receiver.linkCount + 1 + (least + 1) := by omega
    obtain ⟨vs, rfl, hvs, hresult⟩ :=
      links_sound hgoOn hlink ⟨hmix, hindexMix⟩ hlinkCharge hlinkRoom
    exact ⟨signs ++ opening :: (us ++ closing :: vs), by simp, by simpa using hvs, hresult⟩
termination_by (room, 0)

theorem primary_sound {room : Nat} {tokens rest : TokenStream} {e : Expr}
    (h : primary room tokens = .ok (e, rest)) :
    Begins tokens .primary room e rest := by
  rcases primary_eq_ok h with ⟨t, value, rfl, hvalue, rfl⟩ | ⟨t, rfl, hname, rfl⟩ |
    ⟨opening, afterOpening, inner, closing, rfl, hopening, hinner, hclosing, rfl⟩
  · exact ⟨[t], rfl, .literal hvalue, trivial, Nat.zero_le _⟩
  · exact ⟨[t], rfl, .name hname, trivial, Nat.zero_le _⟩
  · obtain ⟨less, rfl, ts, rfl, hts, hmix, hroom⟩ := expression_sound hinner
    exact ⟨opening :: (ts ++ [closing]), by simp, .group hopening hts hclosing, hmix,
      Nat.succ_le_succ hroom⟩
termination_by (room, 1)

end

end Parser

end TemplateLiteral
