import TemplateLiteral.Expr.Parser

/-!
# The grammar of expressions

The phrases of the expression language and the trees that they stand for, without regard to
how they are read. A phrase of a level of operators is a phrase of the next tighter level, or
a phrase of its own level, an operator of the level, and a phrase of the next tighter one; so
operators of one level group to the left. The eighth level is that of operands.

Two conditions come on top of the grammar. They are conditions on trees: `??` has no `&&` or
`||` beside it without parentheses, and the nesting has a bound. What an operand is charged
for nesting depends on where it stands in its chain: the right operand of the third operator
of a chain, or the index of its third link, is charged three.

## Main definitions

* `Grammar.Phrase`, `Grammar.Derives`: which tokens are a phrase, and the tree of the phrase
* `Expr.Unmixed`: no `??` has `&&` or `||` as an operand without parentheses
* `Expr.charge`, `Expr.nesting`: how deep an expression is nested
* `TokenStream.prepend`: tokens in front of a stream

## Main results

* `Grammar.Derives.loosen`: a phrase of a level is a phrase of all looser levels
* `Grammar.Derives.level_le_precedence`: what stands on a level has a tight enough operator
-/

namespace TemplateLiteral

/-! ## Streams that begin with known tokens -/

namespace TokenStream

/-- The stream that begins with the given tokens and goes on with another stream. -/
def prepend (ts : List Token) (rest : TokenStream) : TokenStream :=
  ts.foldr .token rest

@[simp] theorem prepend_nil (rest : TokenStream) : prepend [] rest = rest := rfl

@[simp] theorem prepend_cons (t : Token) (ts : List Token) (rest : TokenStream) :
    prepend (t :: ts) rest = .token t (prepend ts rest) := rfl

@[simp] theorem prepend_append (ts us : List Token) (rest : TokenStream) :
    prepend (ts ++ us) rest = prepend ts (prepend us rest) :=
  List.foldr_append

theorem prepend_close_inj {ts us : List Token} {r s : Region}
    (h : prepend ts (.close r) = prepend us (.close s)) : ts = us := by
  induction ts generalizing us with
  | nil =>
    cases us with
    | nil => rfl
    | cons u us => cases h
  | cons t ts ih =>
    cases us with
    | nil => cases h
    | cons u us =>
      obtain ⟨rfl, hrest⟩ := TokenStream.token.inj h
      rw [ih hrest]

end TokenStream

/-! ## Derivations -/

namespace Grammar

/-- The kinds of phrases. -/
inductive Phrase where
  /-- What may stand in a marker, in parentheses, in brackets, or in a branch. -/
  | expression
  /-- Operands with operators between them that bind at least as tightly as the level. -/
  | level (level : Nat)
  | unary
  | member
  | primary
deriving DecidableEq, Repr

/-- A token of the kind is an operator before its operand. -/
inductive UnarySign : TokenKind → UnaryOperator → Prop where
  | not : UnarySign .exclamation .not
  | negate : UnarySign (.operator .subtract) .negate
  | plus : UnarySign (.operator .add) .plus
  | typeof : UnarySign (.keyword .typeof) .typeof

/-- A token of the kind may name a property. -/
inductive Word : TokenKind → Prop where
  | name : Word .name
  | keyword (keyword : Keyword) : Word (.keyword keyword)
  | reserved : Word .reserved

/-- The token is a value written out. A numeral has to denote a number, and the escapes of a
string have to name characters. -/
inductive Writes : Token → Literal → Prop where
  | null {t : Token} : t.kind = .keyword .null → Writes t .null
  | true {t : Token} : t.kind = .keyword .true → Writes t (.boolean true)
  | false {t : Token} : t.kind = .keyword .false → Writes t (.boolean false)
  | number {t : Token} {x : Float} : t.kind = .number →
      Number.Numeral.read? t.text = some x → Writes t (.number x)
  | string {t : Token} {text : List Char} : t.kind = .string →
      Quoted.decode? t.text.tail.dropLast = some text → Writes t (.string (String.ofList text))

/-- The tokens are a phrase of the given kind, and the expression is its tree. -/
inductive Derives : Phrase → List Token → Expr → Prop where
  | test {ts : List Token} {e : Expr} :
      Derives (.level 1) ts e → Derives .expression ts e
  | conditional {ts us vs : List Token} {question colon : Token} {test yes no : Expr} :
      Derives (.level 1) ts test → question.kind = .question → Derives .expression us yes →
      colon.kind = .colon → Derives .expression vs no →
      Derives .expression (ts ++ question :: (us ++ colon :: vs))
        (.conditional test yes no (test.region.cover no.region))
  | tighter {p : Nat} {ts : List Token} {e : Expr} :
      Derives (.level (p + 1)) ts e → Derives (.level p) ts e
  | binary {op : BinaryOperator} {ts us : List Token} {sign : Token} {left right : Expr} :
      Derives (.level op.precedence) ts left → sign.kind = .operator op →
      Derives (.level (op.precedence + 1)) us right →
      Derives (.level op.precedence) (ts ++ sign :: us)
        (.binary op left right (left.region.cover right.region))
  | operand {ts : List Token} {e : Expr} :
      Derives .unary ts e → Derives (.level 8) ts e
  | unary {op : UnaryOperator} {ts : List Token} {sign : Token} {operand : Expr} :
      UnarySign sign.kind op → Derives .unary ts operand →
      Derives .unary (sign :: ts) (.unary op operand (sign.region.cover operand.region))
  | chain {ts : List Token} {e : Expr} :
      Derives .member ts e → Derives .unary ts e
  | base {ts : List Token} {e : Expr} :
      Derives .primary ts e → Derives .member ts e
  | property {ts : List Token} {period name : Token} {receiver : Expr} :
      Derives .member ts receiver → period.kind = .period → Word name.kind →
      Derives .member (ts ++ [period, name])
        (.member receiver (String.ofList name.text) name.region false
          (receiver.region.cover name.region))
  | optionalProperty {ts : List Token} {period name : Token} {receiver : Expr} :
      Derives .member ts receiver → period.kind = .optionalPeriod → Word name.kind →
      Derives .member (ts ++ [period, name])
        (.member receiver (String.ofList name.text) name.region true
          (receiver.region.cover name.region))
  | index {ts us : List Token} {opening closing : Token} {receiver index : Expr} :
      Derives .member ts receiver → opening.kind = .openBracket → Derives .expression us index →
      closing.kind = .closeBracket →
      Derives .member (ts ++ opening :: (us ++ [closing]))
        (.index receiver index false (receiver.region.cover closing.region))
  | optionalIndex {ts us : List Token} {period opening closing : Token}
      {receiver index : Expr} :
      Derives .member ts receiver → period.kind = .optionalPeriod →
      opening.kind = .openBracket → Derives .expression us index →
      closing.kind = .closeBracket →
      Derives .member (ts ++ period :: opening :: (us ++ [closing]))
        (.index receiver index true (receiver.region.cover closing.region))
  | literal {t : Token} {value : Literal} :
      Writes t value → Derives .primary [t] (.literal value t.region)
  | name {t : Token} :
      t.kind = .name → Derives .primary [t] (.name (String.ofList t.text) t.region)
  | group {ts : List Token} {opening closing : Token} {inner : Expr} :
      opening.kind = .openParen → Derives .expression ts inner → closing.kind = .closeParen →
      Derives .primary (opening :: (ts ++ [closing]))
        (.group inner (opening.region.cover closing.region))

end Grammar

/-! ## Conditions on trees -/

namespace Expr

/-- The expression has `&&` or `||` at its top, and no parentheses around it. -/
def isLogical (e : Expr) : Bool :=
  e.operator?.any BinaryOperator.isLogical

/-- No `??` in the expression has `&&` or `||` as an operand without parentheses. -/
def Unmixed : Expr → Prop
  | .literal .. | .name .. => True
  | .member receiver _ _ _ _ => receiver.Unmixed
  | .index receiver key _ _ => receiver.Unmixed ∧ key.Unmixed
  | .unary _ operand _ => operand.Unmixed
  | .binary op left right _ =>
    (op = .nullish → left.isLogical = false ∧ right.isLogical = false) ∧
      left.Unmixed ∧ right.Unmixed
  | .conditional test yes no _ => test.Unmixed ∧ yes.Unmixed ∧ no.Unmixed
  | .group inner _ => inner.Unmixed

/-- How many operators the chain at the top of an expression has. -/
def operatorCount : Expr → Nat
  | .binary _ left _ _ => left.operatorCount + 1
  | _ => 0

/-- How many properties the chain at the top of an expression reads. -/
def linkCount : Expr → Nat
  | .member receiver _ _ _ _ | .index receiver _ _ _ => receiver.linkCount + 1
  | _ => 0

/-- How much deeper than its surroundings an expression gets. The operand of an operator before
it and an expression in parentheses are charged one, a branch is charged one, and what stands
after the n-th operator or in the n-th link of a chain is charged n; an index is an expression
of its own and charged one more. -/
def charge : Expr → Nat
  | .literal .. | .name .. => 0
  | .member receiver _ _ _ _ => max receiver.charge (receiver.linkCount + 1)
  | .index receiver key _ _ =>
    max receiver.charge (receiver.linkCount + 1 + (key.charge + 1))
  | .unary _ operand _ => operand.charge + 1
  | .binary _ left right _ => max left.charge (left.operatorCount + 1 + right.charge)
  | .conditional test yes no _ => max test.charge (max (yes.charge + 1) (no.charge + 1))
  | .group inner _ => inner.charge + 1

/-- How deep the expression of a marker is nested; the marker itself is charged one. -/
def nesting (e : Expr) : Nat :=
  e.charge + 1

end Expr

/-! ## Facts about phrases -/

theorem BinaryOperator.precedence_le (op : BinaryOperator) : op.precedence ≤ 7 := by
  cases op <;> decide

namespace Grammar

variable {ts : List Token} {e : Expr}

/-- A phrase of a level is a phrase of all looser levels. -/
theorem Derives.loosen {p q : Nat} (h : Derives (.level q) ts e) (hpq : p ≤ q) :
    Derives (.level p) ts e := by
  induction hpq with
  | refl => exact h
  | step _ ih => exact ih h.tighter

/-- Operands have no operator at their top that stands between operands. -/
theorem Derives.operator?_eq_none {c : Phrase} (h : Derives c ts e)
    (hc : c = .unary ∨ c = .member ∨ c = .primary) : e.operator? = none := by
  induction h with
  | test | conditional | tighter | binary | operand => simp at hc
  | chain _ ih => exact ih (.inr (.inl rfl))
  | base _ ih => exact ih (.inr (.inr rfl))
  | unary | property | optionalProperty | index | optionalIndex | literal | name | group => rfl

theorem Derives.operatorCount_eq_zero (h : Derives .unary ts e) : e.operatorCount = 0 := by
  have hop := h.operator?_eq_none (.inl rfl)
  cases e with
  | binary => cases hop
  | _ => rfl

theorem Derives.linkCount_eq_zero (h : Derives .primary ts e) : e.linkCount = 0 := by
  cases h <;> rfl

/-- What stands on a level has an operator at its top that binds tightly enough, or none. -/
theorem Derives.level_le_precedence {p : Nat} {op : BinaryOperator}
    (h : Derives (.level p) ts e) (hop : e.operator? = some op) : p ≤ op.precedence := by
  generalize hc : Phrase.level p = c at h
  induction h generalizing p with
  | tighter _ ih =>
    obtain rfl := Phrase.level.inj hc
    exact Nat.le_of_succ_le (ih hop rfl)
  | binary =>
    obtain rfl := Phrase.level.inj hc
    obtain rfl := Option.some.inj hop
    exact Nat.le_refl _
  | operand h =>
    rw [h.operator?_eq_none (.inl rfl)] at hop
    cases hop
  | _ => cases hc

/-- A property with a fixed name, after either sign. -/
theorem Derives.link {sign name : Token} {optional : Bool} (h : Derives .member ts e)
    (hsign : sign.kind = if optional then .optionalPeriod else .period) (hword : Word name.kind) :
    Derives .member (ts ++ [sign, name])
      (.member e (String.ofList name.text) name.region optional
        (e.region.cover name.region)) := by
  cases optional with
  | false => exact h.property hsign hword
  | true => exact h.optionalProperty hsign hword

/-- A property with a computed name, after a sign or without one. -/
theorem Derives.computedLink {signs us : List Token} {opening closing : Token} {index : Expr}
    {optional : Bool} (h : Derives .member ts e)
    (hsigns : signs.map Token.kind = if optional then [.optionalPeriod] else [])
    (hopening : opening.kind = .openBracket) (hindex : Derives .expression us index)
    (hclosing : closing.kind = .closeBracket) :
    Derives .member (ts ++ (signs ++ opening :: (us ++ [closing])))
      (.index e index optional (e.region.cover closing.region)) := by
  cases optional with
  | false =>
    obtain rfl := List.map_eq_nil_iff.1 hsigns
    exact h.index hopening hindex hclosing
  | true =>
    obtain ⟨sign, rfl, hsign⟩ := List.map_eq_singleton_iff.1 hsigns
    exact h.optionalIndex hsign hopening hindex hclosing

end Grammar

end TemplateLiteral
