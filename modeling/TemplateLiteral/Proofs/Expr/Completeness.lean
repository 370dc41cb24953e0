import TemplateLiteral.Proofs.Expr.Soundness
import TemplateLiteral.Proofs.Token.Stream

/-!
# What is an expression is read as one

A phrase of the grammar in front of a stream is read, with its tree, if it keeps to the
conditions on trees and what follows cannot belong to it. What may follow depends on the kind of
the phrase. After a chain of links anything may come, since reading the chain then goes on; after
an operand no link may come, after operands of a level no operator of that level, and after an
expression only what closes it.

The statement for a chain is not that reading ends, but that reading the chain from its beginning
is the same as going on after it: the grammar has the longest chain outermost, and the reader has
it last.

## Main definitions

* `TokenStream.EndsChain`, `TokenStream.EndsExpression`: what may follow a phrase
* `Parser.ReadsAs`: how a phrase is read

## Main results

* `Parser.readsAs_of_derives`
* `Expr.ofTokens_eq_ok_iff`: reading succeeds exactly for phrases that keep to the conditions
* `Expr.ofTokens_scan_eq_ok_iff`: what this says of the tokens of a text, where every numeral
  denotes a number
-/

namespace TemplateLiteral

open Grammar

/-! ## What may follow -/

namespace TokenStream

/-- No link of a chain and no call comes next. -/
def EndsChain : TokenStream → Prop
  | .token t _ => t.kind ≠ .period ∧ t.kind ≠ .optionalPeriod ∧ t.kind ≠ .openBracket ∧
      t.kind ≠ .openParen
  | .fault _ => False
  | .close _ | .endOfText _ => True

/-- Something comes next that closes an expression. -/
def EndsExpression : TokenStream → Prop
  | .token t _ => t.kind = .colon ∨ t.kind = .closeParen ∨ t.kind = .closeBracket
  | .close _ => True
  | .endOfText _ | .fault _ => False

variable {rest : TokenStream}

theorem EndsExpression.endsChain (h : rest.EndsExpression) : rest.EndsChain := by
  cases rest with
  | token t rest => rcases h with h | h | h <;> simp [EndsChain, h]
  | close => trivial
  | endOfText => trivial
  | fault => cases h

theorem EndsExpression.stopsAt (h : rest.EndsExpression) (level : Nat) : rest.StopsAt level := by
  rintro t rest op rfl hop
  rcases h with h | h | h <;> rw [hop] at h <;> cases h

theorem endsChain_of_kind_eq_operator {t : Token} {op : BinaryOperator}
    (h : t.kind = .operator op) : (TokenStream.token t rest).EndsChain := by
  simp [EndsChain, h]

theorem endsChain_of_kind_eq_question {t : Token} (h : t.kind = .question) :
    (TokenStream.token t rest).EndsChain := by
  simp [EndsChain, h]

theorem stopsAt_of_kind_eq_operator {t : Token} {op : BinaryOperator} {level : Nat}
    (h : t.kind = .operator op) (hop : op.precedence < level) :
    (TokenStream.token t rest).StopsAt level := by
  rintro t rest op' ⟨⟩ hop'
  obtain rfl := TokenKind.operator.inj (h.symm.trans hop')
  exact hop

theorem stopsAt_of_kind_eq_question {t : Token} {level : Nat} (h : t.kind = .question) :
    (TokenStream.token t rest).StopsAt level := by
  rintro t rest op ⟨⟩ hop
  rw [h] at hop
  cases hop

end TokenStream

/-! ## How phrases begin -/

namespace Grammar

variable {c : Phrase} {ts : List Token} {e : Expr}

/-- Each phrase has a first token. -/
theorem Derives.exists_cons (h : Derives c ts e) : ∃ t us, ts = t :: us := by
  induction h with
  | test _ ih | tighter _ ih | operand _ ih | chain _ ih | base _ ih => exact ih
  | conditional _ _ _ _ _ ih | binary _ _ _ ih | property _ _ _ ih | optionalProperty _ _ _ ih
  | index _ _ _ _ ih | optionalIndex _ _ _ _ _ ih =>
    obtain ⟨t, us, rfl⟩ := ih
    exact ⟨t, _, rfl⟩
  | unary | literal | name | group => exact ⟨_, _, rfl⟩

theorem Writes.unaryOperator?_eq_none {t : Token} {value : Literal} (h : Writes t value) :
    Parser.unaryOperator? t.kind = none := by
  cases h with
  | null h | true h | false h | number h | string h => rw [h]; rfl

/-- The first token of a chain is no operator before an operand. -/
theorem Derives.unaryOperator?_eq_none (h : Derives c ts e) (hc : c = .member ∨ c = .primary) :
    ∃ t us, ts = t :: us ∧ Parser.unaryOperator? t.kind = none := by
  induction h with
  | test | conditional | tighter | binary | operand | unary | chain => simp at hc
  | base _ ih => exact ih (.inr rfl)
  | property _ _ _ ih | optionalProperty _ _ _ ih | index _ _ _ _ ih
  | optionalIndex _ _ _ _ _ ih =>
    -- The first token of a chain is that of its receiver, which is a chain again.
    obtain ⟨t, us, rfl, ht⟩ := ih (.inl rfl)
    exact ⟨t, _, rfl, ht⟩
  | literal h => exact ⟨_, _, rfl, h.unaryOperator?_eq_none⟩
  | name h | group h => exact ⟨_, _, rfl, by rw [h]; rfl⟩

end Grammar

namespace Parser

/-! ## What each function does with what it expects -/

section Forward

variable {room less least : Nat} {tokens rest : TokenStream} {e left receiver : Expr}

theorem expect_of_kind_eq {t : Token} {wanted : TokenKind} (h : t.kind = wanted) :
    expect wanted (.token t rest) = .ok (t, rest) :=
  if_pos h

theorem propertyName_of_word {t : Token} (h : Word t.kind) :
    propertyName (.token t rest) = .ok (t, rest) := by
  obtain ⟨kind, text, region⟩ := t
  cases h <;> rfl

theorem literal?_of_writes {t : Token} {value : Literal} (h : Writes t value) :
    literal? t = some (.ok value) := by
  cases h with
  | null h | true h | false h => simp [literal?, h]
  | number h hread => simp [literal?, h, hread]
  | string h hdecode => simp [literal?, h, hdecode]

theorem unaryOperator?_of_unarySign {kind : TokenKind} {op : UnaryOperator}
    (h : UnarySign kind op) : unaryOperator? kind = some op := by
  cases h <;> rfl

theorem expression_of_conditional {t : Token}
    (h : conditional less (.token t tokens) = .ok (e, rest)) :
    expression (less + 1) (.token t tokens) = .ok (e, rest) := by
  rw [expression]
  · exact h
  · rintro _ ⟨⟩
  · rintro _ ⟨⟩

theorem conditional_of_binary (h : binary room 1 tokens = .ok (e, rest))
    (hrest : rest.EndsExpression) : conditional room tokens = .ok (e, rest) := by
  rw [conditional, h]
  cases rest with
  | token t rest =>
    obtain ⟨kind, text, region⟩ := t
    have hkind : kind = .colon ∨ kind = .closeParen ∨ kind = .closeBracket := hrest
    rcases hkind with rfl | rfl | rfl <;> rfl
  | close => rfl
  | endOfText => rfl
  | fault => cases hrest

theorem conditional_of_question {question colon : Token} {afterTest afterYes : TokenStream}
    {test yes no : Expr} (htest : binary room 1 tokens = .ok (test, .token question afterTest))
    (hquestion : question.kind = .question)
    (hyes : expression room afterTest = .ok (yes, .token colon afterYes))
    (hcolon : colon.kind = .colon) (hno : expression room afterYes = .ok (no, rest)) :
    conditional room tokens =
      .ok (.conditional test yes no (test.region.cover no.region), rest) := by
  obtain ⟨kind, text, region⟩ := question
  obtain rfl : kind = .question := hquestion
  rw [conditional, htest]
  simp only [bind, Except.bind, hyes, expect_of_kind_eq hcolon, hno]
  rfl

theorem operators_of_endsChain (hchain : tokens.EndsChain) (hstop : tokens.StopsAt least) :
    operators room least left tokens = .ok (left, tokens) := by
  unfold operators
  split
  next op text region rest =>
    have hloose : ¬ least ≤ op.precedence := Nat.not_le_of_lt (hstop _ rest op rfl rfl)
    rw [if_neg hloose]
  · cases hchain
  · rfl

theorem operators_of_sign {op : BinaryOperator} {sign : Token} {afterSign afterRight : TokenStream}
    {right : Expr} (hsign : sign.kind = .operator op) (hleast : least ≤ op.precedence)
    (hright : binary less (op.precedence + 1) afterSign = .ok (right, afterRight))
    (hclash : (left.clashesWith op || right.clashesWith op) = false) :
    operators (less + 1) least left (.token sign afterSign) =
      operators less least (.binary op left right (left.region.cover right.region)) afterRight := by
  obtain ⟨kind, text, region⟩ := sign
  obtain rfl : kind = .operator op := hsign
  rw [operators, if_pos hleast, hright]
  simp only [bind, Except.bind, hclash]
  rfl

theorem unary_of_sign {op : UnaryOperator} {sign : Token} {afterSign : TokenStream}
    {operand : Expr} (hsign : UnarySign sign.kind op)
    (hoperand : unary less afterSign = .ok (operand, rest)) :
    unary (less + 1) (.token sign afterSign) =
      .ok (.unary op operand (sign.region.cover operand.region), rest) := by
  rw [unary]
  simp only [unaryOperator?_of_unarySign hsign, hoperand]
  rfl

theorem unary_of_member {t : Token} (ht : unaryOperator? t.kind = none) :
    unary room (.token t tokens) = member room (.token t tokens) := by
  rw [unary]
  simp only [ht]

theorem links_of_endsChain (h : tokens.EndsChain) :
    links room receiver tokens = .ok (receiver, tokens) := by
  unfold links
  split
  · exact absurd rfl h.1
  · exact absurd rfl h.2.1
  · exact absurd rfl h.2.2.1
  · exact absurd rfl h.2.2.2
  · cases h
  · rfl

theorem links_of_period {period name : Token} (hperiod : period.kind = .period)
    (hname : Word name.kind) :
    links (less + 1) receiver (.token period (.token name tokens)) =
      links less (.member receiver (String.ofList name.text) name.region false
        (receiver.region.cover name.region)) tokens := by
  obtain ⟨kind, text, region⟩ := period
  obtain rfl : kind = .period := hperiod
  rw [links]
  simp only [propertyName_of_word hname]
  rfl

theorem links_of_optionalPeriod {period name : Token} (hperiod : period.kind = .optionalPeriod)
    (hname : Word name.kind) :
    links (less + 1) receiver (.token period (.token name tokens)) =
      links less (.member receiver (String.ofList name.text) name.region true
        (receiver.region.cover name.region)) tokens := by
  obtain ⟨kind, text, region⟩ := period
  obtain rfl : kind = .optionalPeriod := hperiod
  obtain ⟨kind, text, region⟩ := name
  have hword : Word kind := hname
  rw [links]
  · cases hword <;> rfl
  · rintro _ _ _ ⟨⟩
    cases hword
  · rintro _ _ _ ⟨⟩
    cases hword

theorem links_of_openBracket {opening closing : Token} {afterOpening : TokenStream} {index : Expr}
    (hopening : opening.kind = .openBracket)
    (hindex : expression less afterOpening = .ok (index, .token closing tokens))
    (hclosing : closing.kind = .closeBracket) :
    links (less + 1) receiver (.token opening afterOpening) =
      links less (.index receiver index false (receiver.region.cover closing.region)) tokens := by
  obtain ⟨kind, text, region⟩ := opening
  obtain rfl : kind = .openBracket := hopening
  rw [links]
  simp only [bind, Except.bind, hindex, expect_of_kind_eq hclosing]

theorem links_of_optionalBracket {period opening closing : Token} {afterOpening : TokenStream}
    {index : Expr} (hperiod : period.kind = .optionalPeriod)
    (hopening : opening.kind = .openBracket)
    (hindex : expression less afterOpening = .ok (index, .token closing tokens))
    (hclosing : closing.kind = .closeBracket) :
    links (less + 1) receiver (.token period (.token opening afterOpening)) =
      links less (.index receiver index true (receiver.region.cover closing.region)) tokens := by
  obtain ⟨kind, text, region⟩ := period
  obtain rfl : kind = .optionalPeriod := hperiod
  obtain ⟨kind, text, region⟩ := opening
  obtain rfl : kind = .openBracket := hopening
  rw [links]
  simp only [bind, Except.bind, hindex, expect_of_kind_eq hclosing]

theorem primary_of_writes {t : Token} {value : Literal} (h : Writes t value) :
    primary room (.token t rest) = .ok (.literal value t.region, rest) := by
  rw [primary]
  simp only [literal?_of_writes h]
  rfl

theorem primary_of_name {t : Token} (h : t.kind = .name) :
    primary room (.token t rest) = .ok (.name (String.ofList t.text) t.region, rest) := by
  rw [primary]
  simp only [literal?, h]

theorem primary_of_openParen {opening closing : Token} {afterOpening : TokenStream} {inner : Expr}
    (hopening : opening.kind = .openParen)
    (hinner : expression room afterOpening = .ok (inner, .token closing rest))
    (hclosing : closing.kind = .closeParen) :
    primary room (.token opening afterOpening) =
      .ok (.group inner (opening.region.cover closing.region), rest) := by
  rw [primary]
  simp only [literal?, hopening, bind, Except.bind, hinner, expect_of_kind_eq hclosing]
  rfl

end Forward

/-! ## Phrases in front of a stream -/

/-- How a phrase is read that a stream begins with. -/
def ReadsAs : Phrase → List Token → Expr → Prop
  | .expression, ts, e => ∀ room rest, e.charge ≤ room → rest.EndsExpression →
      conditional room (.prepend ts rest) = .ok (e, rest)
  | .level p, ts, e => ∀ room least rest, least ≤ p → e.charge ≤ room → rest.EndsChain →
      rest.StopsAt (p + 1) →
      binary room least (.prepend ts rest) = operators (room - e.operatorCount) least e rest
  | .unary, ts, e => ∀ room rest, e.charge ≤ room → rest.EndsChain →
      unary room (.prepend ts rest) = .ok (e, rest)
  | .member, ts, e => ∀ room rest, e.charge ≤ room →
      member room (.prepend ts rest) = links (room - e.linkCount) e rest
  | .primary, ts, e => ∀ room rest, e.charge ≤ room →
      primary room (.prepend ts rest) = .ok (e, rest)

/-- A link or an operator after `count` others takes one level of the room that they have left. -/
theorem exists_room_less {room count further : Nat} (h : count + 1 + further ≤ room) :
    ∃ less, room - count = less + 1 ∧ room - (count + 1) = less ∧ further ≤ less :=
  ⟨room - (count + 1), by omega, rfl, by omega⟩

theorem clashesWith_eq_false {op : BinaryOperator} {ts : List Token} {operand : Expr} {p : Nat}
    (h : Derives (.level p) ts operand) (hp : op.precedence ≤ p)
    (hmix : op = .nullish → operand.isLogical = false) : operand.clashesWith op = false := by
  unfold Expr.clashesWith
  unfold Expr.isLogical at hmix
  cases hinner : operand.operator? with
  | none => rfl
  | some inner =>
    rw [hinner] at hmix
    have hlevel : op.precedence ≤ inner.precedence :=
      Nat.le_trans hp (h.level_le_precedence hinner)
    -- Of two operators that clash the looser is `??`, so that only it can be the outer one.
    cases op <;> cases inner <;> simp_all [BinaryOperator.clashes, BinaryOperator.isLogical,
      BinaryOperator.precedence]

/-- An expression in front of what closes it, where it takes one level of room as a whole. -/
theorem expression_of_readsAs {ts : List Token} {e : Expr} {room : Nat} {rest : TokenStream}
    (h : Derives .expression ts e) (hread : ReadsAs .expression ts e)
    (hroom : e.charge + 1 ≤ room) (hrest : rest.EndsExpression) :
    expression room (.prepend ts rest) = .ok (e, rest) := by
  obtain ⟨t, us, rfl⟩ := h.exists_cons
  obtain ⟨less, rfl⟩ : ∃ less, room = less + 1 := ⟨room - 1, by omega⟩
  exact expression_of_conditional (hread less rest (by omega) hrest)

/-- The operands of levels are read up to operators that the level does not have. -/
theorem binary_of_readsAs {ts : List Token} {e : Expr} {room least : Nat} {rest : TokenStream}
    (hread : ReadsAs (.level least) ts e) (hroom : e.charge ≤ room) (hchain : rest.EndsChain)
    (hstop : rest.StopsAt least) : binary room least (.prepend ts rest) = .ok (e, rest) := by
  rw [hread room least rest (Nat.le_refl _) hroom hchain (hstop.mono (Nat.le_succ _))]
  exact operators_of_endsChain hchain hstop

/-- Each phrase that keeps to the conditions on trees is read with its tree. -/
theorem readsAs_of_derives {c : Phrase} {ts : List Token} {e : Expr} (h : Derives c ts e)
    (hmix : e.Unmixed) : ReadsAs c ts e := by
  -- By induction on the derivation: what may follow a phrase is passed on to its last part.
  induction h with
  | test _ ih =>
    intro room rest hroom hrest
    exact conditional_of_binary
      (binary_of_readsAs (ih hmix) hroom hrest.endsChain (hrest.stopsAt 1)) hrest
  | @conditional ts us vs question colon test yes no _ hquestion hyes hcolon hno ihTest ihYes
    ihNo =>
    obtain ⟨htestMix, hyesMix, hnoMix⟩ := hmix
    intro room rest hroom hrest
    simp only [Expr.charge] at hroom
    simp only [TokenStream.prepend_append, TokenStream.prepend_cons]
    have hcolonEnds : (TokenStream.token colon (.prepend vs rest)).EndsExpression := .inl hcolon
    exact conditional_of_question
      (binary_of_readsAs (ihTest htestMix) (by omega)
        (TokenStream.endsChain_of_kind_eq_question hquestion)
        (TokenStream.stopsAt_of_kind_eq_question hquestion)) hquestion
      (expression_of_readsAs hyes (ihYes hyesMix) (by omega) hcolonEnds) hcolon
      (expression_of_readsAs hno (ihNo hnoMix) (by omega) hrest)
  | tighter _ ih =>
    intro room least rest hleast hroom hchain hstop
    exact ih hmix room least rest (Nat.le_succ_of_le hleast) hroom hchain
      (hstop.mono (Nat.le_succ _))
  | @binary op ts us sign left right hleft hsign hright ihLeft ihRight =>
    obtain ⟨hnullish, hleftMix, hrightMix⟩ := hmix
    intro room least rest hleast hroom hchain hstop
    obtain ⟨hleftRoom, hoperatorRoom⟩ := Nat.max_le.1 hroom
    simp only [TokenStream.prepend_append, TokenStream.prepend_cons]
    obtain ⟨less, hless, hrest, hrightRoom⟩ := exists_room_less hoperatorRoom
    -- The chain on the left is read first, and reading goes on at this operator.
    rw [ihLeft hleftMix room least _ hleast hleftRoom
      (TokenStream.endsChain_of_kind_eq_operator hsign)
      (TokenStream.stopsAt_of_kind_eq_operator hsign (Nat.lt_succ_self _)),
      Expr.operatorCount, hless, hrest]
    have hleftClash := clashesWith_eq_false hleft (Nat.le_refl _) fun h => (hnullish h).1
    have hrightClash := clashesWith_eq_false hright (Nat.le_succ _) fun h => (hnullish h).2
    exact operators_of_sign hsign hleast
      (binary_of_readsAs (ihRight hrightMix) hrightRoom hchain hstop)
      (by rw [hleftClash, hrightClash]; rfl)
  | operand h ih =>
    intro room least rest _ hroom hchain _
    rw [binary, ih hmix room rest hroom hchain, h.operatorCount_eq_zero]
    rfl
  | unary hsign _ ih =>
    intro room rest hroom hchain
    obtain ⟨less, rfl⟩ := Nat.exists_eq_add_of_le' (Nat.le_trans (Nat.le_add_left 1 _) hroom)
    exact unary_of_sign hsign (ih hmix less rest (Nat.le_of_succ_le_succ hroom) hchain)
  | chain h ih =>
    intro room rest hroom hchain
    -- No operator stands before a chain, so its first token is left to the chain.
    obtain ⟨t, us, rfl, ht⟩ := h.unaryOperator?_eq_none (.inl rfl)
    rw [TokenStream.prepend_cons, unary_of_member ht, ← TokenStream.prepend_cons,
      ih hmix room rest hroom]
    exact links_of_endsChain hchain
  | base h ih =>
    intro room rest hroom
    rw [member, ih hmix room rest hroom, h.linkCount_eq_zero]
    rfl
  | property _ hperiod hname ih =>
    intro room rest hroom
    obtain ⟨hreceiverRoom, hlinkRoom⟩ := Nat.max_le.1 hroom
    simp only [TokenStream.prepend_append, TokenStream.prepend_cons, TokenStream.prepend_nil]
    obtain ⟨less, hless, hrest, -⟩ := @exists_room_less room _ 0 hlinkRoom
    rw [ih hmix room _ hreceiverRoom, Expr.linkCount, hless, hrest]
    exact links_of_period hperiod hname
  | optionalProperty _ hperiod hname ih =>
    intro room rest hroom
    obtain ⟨hreceiverRoom, hlinkRoom⟩ := Nat.max_le.1 hroom
    simp only [TokenStream.prepend_append, TokenStream.prepend_cons, TokenStream.prepend_nil]
    obtain ⟨less, hless, hrest, -⟩ := @exists_room_less room _ 0 hlinkRoom
    rw [ih hmix room _ hreceiverRoom, Expr.linkCount, hless, hrest]
    exact links_of_optionalPeriod hperiod hname
  | index _ hopening hindex hclosing ih ihIndex =>
    obtain ⟨hreceiverMix, hindexMix⟩ := hmix
    intro room rest hroom
    obtain ⟨hreceiverRoom, hlinkRoom⟩ := Nat.max_le.1 hroom
    simp only [TokenStream.prepend_append, TokenStream.prepend_cons, TokenStream.prepend_nil]
    obtain ⟨less, hless, hrest, hindexRoom⟩ := exists_room_less hlinkRoom
    rw [ih hreceiverMix room _ hreceiverRoom, Expr.linkCount, hless, hrest]
    exact links_of_openBracket hopening
      (expression_of_readsAs hindex (ihIndex hindexMix) hindexRoom (.inr (.inr hclosing))) hclosing
  | optionalIndex _ hperiod hopening hindex hclosing ih ihIndex =>
    obtain ⟨hreceiverMix, hindexMix⟩ := hmix
    intro room rest hroom
    obtain ⟨hreceiverRoom, hlinkRoom⟩ := Nat.max_le.1 hroom
    simp only [TokenStream.prepend_append, TokenStream.prepend_cons, TokenStream.prepend_nil]
    obtain ⟨less, hless, hrest, hindexRoom⟩ := exists_room_less hlinkRoom
    rw [ih hreceiverMix room _ hreceiverRoom, Expr.linkCount, hless, hrest]
    exact links_of_optionalBracket hperiod hopening
      (expression_of_readsAs hindex (ihIndex hindexMix) hindexRoom (.inr (.inr hclosing))) hclosing
  | literal h =>
    intro room rest _
    exact primary_of_writes h
  | name h =>
    intro room rest _
    exact primary_of_name h
  | @group ts opening closing inner hopening hinner hclosing ih =>
    intro room rest hroom
    simp only [TokenStream.prepend_append, TokenStream.prepend_cons, TokenStream.prepend_nil]
    exact primary_of_openParen hopening
      (expression_of_readsAs hinner (ih hmix) hroom (.inr (.inl hclosing))) hclosing

end Parser

/-! ## The expression of a marker -/

/-- A stream is the expression of a marker if it closes after a phrase that keeps to the conditions
on trees; the tree is then that of the phrase. -/
theorem Expr.ofTokens_eq_ok_iff {tokens : TokenStream} {e : Expr} :
    Expr.ofTokens tokens = .ok e ↔ ∃ ts region, tokens = .prepend ts (.close region) ∧
      Derives .expression ts e ∧ e.Unmixed ∧ e.nesting ≤ maxNesting := by
  constructor
  · intro h
    obtain ⟨⟨tree, rest⟩, hread, hclose⟩ := bind_eq_ok_iff.1 h
    obtain ⟨less, hless, ts, rfl, hts, hmix, hroom⟩ := Parser.expression_sound hread
    cases rest with
    | close region =>
      cases hclose
      exact ⟨ts, region, rfl, hts, hmix, hless ▸ Nat.succ_le_succ hroom⟩
    | token | endOfText | fault => cases hclose
  · intro h
    obtain ⟨ts, region, rfl, hts, hmix, hnesting⟩ := h
    have hread : Parser.expression maxNesting (.prepend ts (.close region)) =
        .ok (e, .close region) :=
      Parser.expression_of_readsAs hts (Parser.readsAs_of_derives hts hmix) hnesting trivial
    rw [Expr.ofTokens, hread]
    rfl

/-- A marker that has an expression is closed. -/
theorem Expr.closes_of_ofTokens_eq_ok {tokens : TokenStream} {e : Expr}
    (h : Expr.ofTokens tokens = .ok e) : tokens.Closes := by
  obtain ⟨ts, region, rfl, -⟩ := ofTokens_eq_ok_iff.1 h
  exact (TokenStream.closes_prepend ts _).2 trivial

/-- The text of a marker is read as an expression exactly if its tokens up to the closing brace
are a phrase whose tree keeps to the conditions. That a numeral denotes a number is no condition,
since every numeral in a text does. -/
theorem Expr.ofTokens_scan_eq_ok_iff [Text.Alphabet] (start : Nat) (text : List Char) :
    (∀ t ∈ (scan start text).tokens.toList, t.kind = .number →
      (Number.Numeral.read? t.text).isSome) ∧
    ∀ e, Expr.ofTokens (scan start text).tokens = .ok e ↔
      ∃ ts region, (scan start text).tokens = .prepend ts (.close region) ∧
        Derives .expression ts e ∧ e.Unmixed ∧ e.nesting ≤ 64 := by
  refine ⟨fun t ht hkind => ?_, fun e => ?_⟩
  · exact read?_isSome_of_mem_scan ht hkind
  · exact ofTokens_eq_ok_iff

end TemplateLiteral
