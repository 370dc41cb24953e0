import TemplateLiteral.Proofs.Expr.Completeness

/-!
# Strings without a meaning

A string whose escapes name no characters has no place in an expression. The fault in it is found
when the reader gets there, which depends on what stands before the string and on nothing behind it:
the reader looks one token ahead, and where it has got to the string it has read all before it.

With only the front of a marker given, reading goes one of four ways. It is done before the front
ends or just there; it finds a fault in the front; it needs a certain token behind the front, which
no string is; or it needs an expression there. Which of them it is can be seen from the fault of a
marker that ends with the front.

## Main definitions

* `Expr.Awaits`: an expression is missing behind the tokens
* `Parser.Course`: how reading goes on a front, whatever breaks it off

## Main results

* `Grammar.Derives.exists_writes`: every string in a phrase has a meaning
* `Parser.course_expression`: reading a front goes one of the four ways
* `Expr.awaits_of_ofTokens_eq_ok`: an expression is missing where a string can be read
* `Expr.Awaits.ofTokens_eq_error`: the fault that is found where an expression is missing
-/

namespace TemplateLiteral

open Grammar

/-! ## Strings in phrases -/

/-- No word and no sign before an operand is a string. -/
theorem Grammar.Word.ne_string {kind : TokenKind} (h : Word kind) : kind ≠ .string := by
  cases h <;> nofun

theorem Grammar.UnarySign.ne_string {kind : TokenKind} {op : UnaryOperator}
    (h : UnarySign kind op) : kind ≠ .string := by
  cases h <;> nofun

/-- Every string in a phrase has a meaning. -/
theorem Grammar.Derives.exists_writes {c : Phrase} {ts : List Token} {e : Expr}
    (h : Derives c ts e) {t : Token} (ht : t ∈ ts) (hkind : t.kind = .string) :
    ∃ value, Writes t value := by
  -- The signs and words of a phrase are no strings, so that the string is in a part of it.
  induction h with
  | test _ ih | tighter _ ih | operand _ ih | chain _ ih | base _ ih => exact ih ht
  | conditional _ hquestion _ hcolon _ ihTest ihYes ihNo =>
    simp only [List.mem_append, List.mem_cons] at ht
    rcases ht with ht | rfl | ht | rfl | ht
    · exact ihTest ht
    · cases hquestion.symm.trans hkind
    · exact ihYes ht
    · cases hcolon.symm.trans hkind
    · exact ihNo ht
  | binary _ hsign _ ihLeft ihRight =>
    simp only [List.mem_append, List.mem_cons] at ht
    rcases ht with ht | rfl | ht
    · exact ihLeft ht
    · cases hsign.symm.trans hkind
    · exact ihRight ht
  | unary hsign _ ih =>
    rcases List.mem_cons.1 ht with rfl | ht
    · exact absurd hkind hsign.ne_string
    · exact ih ht
  | property _ hperiod hname ih | optionalProperty _ hperiod hname ih =>
    simp only [List.mem_append, List.mem_cons, List.not_mem_nil, or_false] at ht
    rcases ht with ht | rfl | rfl
    · exact ih ht
    · cases hperiod.symm.trans hkind
    · exact absurd hkind hname.ne_string
  | index _ hopening _ hclosing ih ihIndex =>
    simp only [List.mem_append, List.mem_cons, List.not_mem_nil, or_false] at ht
    rcases ht with ht | rfl | ht | rfl
    · exact ih ht
    · cases hopening.symm.trans hkind
    · exact ihIndex ht
    · cases hclosing.symm.trans hkind
  | optionalIndex _ hperiod hopening _ hclosing ih ihIndex =>
    simp only [List.mem_append, List.mem_cons, List.not_mem_nil, or_false] at ht
    rcases ht with ht | rfl | rfl | ht | rfl
    · exact ih ht
    · cases hperiod.symm.trans hkind
    · cases hopening.symm.trans hkind
    · exact ihIndex ht
    · cases hclosing.symm.trans hkind
  | literal h =>
    obtain rfl := List.mem_singleton.1 ht
    exact ⟨_, h⟩
  | name h =>
    obtain rfl := List.mem_singleton.1 ht
    cases h.symm.trans hkind
  | group hopening _ hclosing ih =>
    simp only [List.mem_append, List.mem_cons, List.not_mem_nil, or_false] at ht
    rcases ht with rfl | ht | rfl
    · cases hopening.symm.trans hkind
    · exact ih ht
    · cases hclosing.symm.trans hkind

/-! ## Reading the front of a marker -/

/-- A string or the closing brace comes next: neither of them goes on with what has been read. -/
inductive TokenStream.BreaksOff : TokenStream → Prop where
  | string {text : List Char} {region : Region} {behind : TokenStream} :
      BreaksOff (.token ⟨.string, text, region⟩ behind)
  | close {region : Region} : BreaksOff (.close region)

namespace Parser

/-- The ways that reading can go on a front that is broken off. -/
inductive Course {α : Type} (read : TokenStream → Except SyntaxFault (α × TokenStream)) : Prop where
  /-- What is read ends in the front, or with it. -/
  | done (result : α) (left : List Token) :
      (∀ rest, rest.BreaksOff → read rest = .ok (result, .prepend left rest)) → Course read
  /-- There is a fault in the front. -/
  | fails (fault : SyntaxFault) :
      (∀ rest, rest.BreaksOff → read rest = .error fault) → Course read
  /-- The front has to be followed by something else than an expression. -/
  | lacks (cause : TokenKind → SyntaxFault.Cause) :
      (∀ kind, cause kind ≠ .expectedExpression kind) →
      (∀ rest, rest.BreaksOff → read rest = .error (rest.unexpected cause)) → Course read
  /-- The front has to be followed by an expression, and a fault in its first token is reported. -/
  | awaits : (∀ rest fault, rest.BreaksOff → (∀ room, primary room rest = .error fault) →
      read rest = .error fault) → Course read

section Courses

variable {α β : Type} {read : TokenStream → Except SyntaxFault (α × TokenStream)}

theorem Course.congr {read' : TokenStream → Except SyntaxFault (α × TokenStream)}
    (h : Course read) (heq : ∀ rest, rest.BreaksOff → read' rest = read rest) : Course read' := by
  cases h with
  | done a left h =>
    exact .done a left fun rest hrest => (heq rest hrest).trans (h rest hrest)
  | fails fault h =>
    exact .fails fault fun rest hrest => (heq rest hrest).trans (h rest hrest)
  | lacks cause hcause h =>
    exact .lacks cause hcause fun rest hrest => (heq rest hrest).trans (h rest hrest)
  | awaits h =>
    exact .awaits fun rest fault hrest hfault =>
      (heq rest hrest).trans (h rest fault hrest hfault)

/-- If two steps are made, the second goes on with what the first has left of the front. -/
theorem Course.bind {next : α × TokenStream → Except SyntaxFault (β × TokenStream)}
    (h : Course read) (hnext : ∀ a left, Course fun rest => next (a, .prepend left rest)) :
    Course fun rest => read rest >>= next := by
  cases h with
  | done a left h =>
    refine (hnext a left).congr fun rest hrest => ?_
    rw [h rest hrest]
    rfl
  | fails fault h =>
    refine .fails fault fun rest hrest => ?_
    rw [h rest hrest]
    rfl
  | lacks cause hcause h =>
    refine .lacks cause hcause fun rest hrest => ?_
    rw [h rest hrest]
    rfl
  | awaits h =>
    refine .awaits fun rest fault hrest hfault => ?_
    rw [h rest fault hrest hfault]
    rfl

end Courses

/-! ## Single tokens -/

theorem course_expect (wanted : TokenKind) (hwanted : wanted ≠ .string) (front : List Token) :
    Course fun rest => expect wanted (.prepend front rest) := by
  cases front with
  | nil =>
    refine .lacks (.expected wanted) (fun _ => nofun) fun rest hrest => ?_
    cases hrest with
    | string => exact if_neg hwanted.symm
    | close => rfl
  | cons t left =>
    by_cases ht : t.kind = wanted
    · exact .done t left fun _ _ => if_pos ht
    · exact .fails _ fun _ _ => if_neg ht

theorem course_propertyName (front : List Token) :
    Course fun rest => propertyName (.prepend front rest) := by
  cases front with
  | nil =>
    refine .lacks (fun _ => .expectedProperty) (fun _ => nofun) fun rest hrest => ?_
    cases hrest with
    | string | close => rfl
  | cons t left =>
    obtain ⟨kind, text, region⟩ := t
    cases kind with
    | name | reserved | keyword => exact .done _ left fun _ _ => rfl
    | _ => exact .fails _ fun _ _ => rfl

theorem primary_of_literal?_eq_error {room : Nat} {t : Token} {tokens : TokenStream}
    {fault : SyntaxFault} (h : literal? t = some (.error fault)) :
    primary room (.token t tokens) = .error fault := by
  rw [primary]
  simp only [h]
  rfl

/-! ## Expressions -/

mutual

/-- Reading the front of an expression goes one of the four ways. The functions below it do so, each
with what the one before it has left of the front. -/
theorem course_expression (room : Nat) (front : List Token) :
    Course fun rest => expression room (.prepend front rest) := by
  match room, front with
  | 0, [] =>
    refine .lacks (fun _ => .tooDeep) (fun _ => nofun) fun rest hrest => ?_
    cases hrest with
    | string | close =>
      unfold expression
      rfl
  | 0, t :: left =>
    refine .fails ⟨.tooDeep, t.region⟩ fun rest _ => ?_
    unfold expression
    rfl
  | room + 1, [] =>
    refine (course_conditional room []).congr fun rest hrest => ?_
    cases hrest with
    | string | close =>
      rw [TokenStream.prepend_nil, expression] <;> nofun
  | room + 1, t :: left =>
    refine (course_conditional room (t :: left)).congr fun rest _ => ?_
    rw [TokenStream.prepend_cons, expression] <;> nofun
termination_by (room, 0)

theorem course_conditional (room : Nat) (front : List Token) :
    Course fun rest => conditional room (.prepend front rest) := by
  unfold conditional
  refine (course_binary room 1 front).bind fun test left => ?_
  match left with
  | [] =>
    -- Neither a string nor a brace is a question mark, so that there is no choice.
    refine .done test [] fun rest hrest => ?_
    cases hrest with
    | string | close => rfl
  | ⟨kind, text, region⟩ :: left =>
    by_cases hquestion : kind = .question
    · subst hquestion
      refine (course_expression room left).bind fun yes left => ?_
      refine (course_expect .colon nofun left).bind fun colon left => ?_
      refine (course_expression room left).bind fun no left => ?_
      exact .done _ left fun _ _ => rfl
    · refine .done test (⟨kind, text, region⟩ :: left) fun rest _ => ?_
      cases kind <;> first | rfl | exact absurd rfl hquestion
termination_by (room, 5)

theorem course_binary (room least : Nat) (front : List Token) :
    Course fun rest => binary room least (.prepend front rest) := by
  unfold binary
  exact (course_unary room front).bind fun left after => course_operators room least left after
termination_by (room, 4)

theorem course_operators (room least : Nat) (left : Expr) (front : List Token) :
    Course fun rest => operators room least left (.prepend front rest) := by
  unfold operators
  match front with
  | [] =>
    -- Neither a string nor a brace is an operator, so that the operand is all there is.
    refine .done left [] fun rest hrest => ?_
    cases hrest with
    | string | close => rfl
  | ⟨kind, text, region⟩ :: after =>
    cases kind with
    | operator op =>
      by_cases hleast : least ≤ op.precedence
      · simp only [TokenStream.prepend_cons, if_pos hleast]
        match room with
        | 0 => exact .fails _ fun _ _ => rfl
        | room + 1 =>
          refine (course_binary room (op.precedence + 1) after).bind fun right after => ?_
          dsimp only
          by_cases hclash : (left.clashesWith op || right.clashesWith op) = true
          · exact .fails _ fun _ _ => if_pos hclash
          · exact (course_operators room least _ after).congr fun _ _ => if_neg hclash
      · exact .done left (_ :: after) fun _ _ => if_neg hleast
    | _ => exact .done left (_ :: after) fun _ _ => rfl
termination_by (room, 0)

theorem course_unary (room : Nat) (front : List Token) :
    Course fun rest => unary room (.prepend front rest) := by
  match front with
  | [] =>
    refine (course_member room []).congr fun rest hrest => ?_
    cases hrest with
    | string => exact unary_of_member rfl
    | close =>
      rw [TokenStream.prepend_nil, unary]
      nofun
  | sign :: after =>
    cases hsign : unaryOperator? sign.kind with
    | none => exact (course_member room (sign :: after)).congr fun _ _ => unary_of_member hsign
    | some op =>
      unfold unary
      simp only [TokenStream.prepend_cons, hsign]
      match room with
      | 0 => exact .fails _ fun _ _ => rfl
      | room + 1 =>
        refine (course_unary room after).bind fun operand after => ?_
        exact .done (.unary op operand (sign.region.cover operand.region)) after fun _ _ => rfl
termination_by (room, 3)

theorem course_member (room : Nat) (front : List Token) :
    Course fun rest => member room (.prepend front rest) := by
  unfold member
  exact (course_primary room front).bind fun receiver left => course_links room receiver left
termination_by (room, 2)

theorem course_links (room : Nat) (receiver : Expr) (front : List Token) :
    Course fun rest => links room receiver (.prepend front rest) := by
  unfold links
  match front with
  | [] =>
    refine .done receiver [] fun rest hrest => ?_
    cases hrest with
    | string | close => rfl
  | ⟨kind, text, region⟩ :: left =>
    cases kind with
    | period =>
      match room with
      | 0 => exact .fails _ fun _ _ => rfl
      | room + 1 =>
        exact (course_propertyName left).bind fun name left => course_links room _ left
    | optionalPeriod =>
      match room, left with
      | 0, _ => exact .fails _ fun _ _ => rfl
      | room + 1, [] =>
        refine .lacks (fun _ => .expectedProperty) (fun _ => nofun) fun rest hrest => ?_
        cases hrest with
        | string | close => rfl
      | room + 1, ⟨kind, text, region⟩ :: left =>
        cases kind with
        | openBracket =>
          refine (course_expression room left).bind fun index left => ?_
          refine (course_expect .closeBracket nofun left).bind fun close left => ?_
          exact course_links room _ left
        | openParen => exact .fails _ fun _ _ => rfl
        | _ =>
          exact (course_propertyName (_ :: left)).bind fun name left => course_links room _ left
    | openBracket =>
      match room with
      | 0 => exact .fails _ fun _ _ => rfl
      | room + 1 =>
        refine (course_expression room left).bind fun index left => ?_
        refine (course_expect .closeBracket nofun left).bind fun close left => ?_
        exact course_links room _ left
    | openParen => exact .fails _ fun _ _ => rfl
    | _ => exact .done receiver (_ :: left) fun _ _ => rfl
termination_by (room, 0)

theorem course_primary (room : Nat) (front : List Token) :
    Course fun rest => primary room (.prepend front rest) := by
  match front with
  | [] =>
    -- This is the only place where a string would be taken.
    exact .awaits fun rest fault _ hfault => hfault room
  | t :: left =>
    cases hvalue : literal? t with
    | some value =>
      cases value with
      | ok value => exact .done _ left fun _ _ => primary_of_writes (writes_of_literal? hvalue)
      | error fault => exact .fails fault fun _ _ => primary_of_literal?_eq_error hvalue
    | none =>
      unfold primary
      simp only [TokenStream.prepend_cons, hvalue]
      obtain ⟨kind, text, region⟩ := t
      cases kind with
      | name => exact .done _ left fun _ _ => rfl
      | openParen =>
        refine (course_expression room left).bind fun inner left => ?_
        dsimp only
        refine (course_expect .closeParen nofun left).bind fun close left => ?_
        exact .done (.group inner (region.cover close.region)) left fun _ _ => rfl
      | _ => exact .fails _ fun _ _ => rfl
termination_by (room, 1)

end

end Parser

/-! ## Where an expression is missing -/

namespace Expr

/-- An expression is missing behind the tokens: this is the fault of a marker that ends with
them. -/
def Awaits (front : List Token) : Prop :=
  ∀ closing, ofTokens (.prepend front (.close closing)) =
    .error ⟨.expectedExpression .close, closing⟩

variable {front : List Token} {behind : TokenStream} {t : Token}

/-- Where a string is read as part of an expression, an expression is missing without it. -/
theorem awaits_of_ofTokens_eq_ok {e : Expr} (hkind : t.kind = .string)
    (h : ofTokens (.prepend front (.token t behind)) = .ok e) : Awaits front := by
  obtain ⟨kind, text, region⟩ := t
  obtain rfl : kind = .string := hkind
  intro closing
  rw [ofTokens] at h ⊢
  cases Parser.course_expression maxNesting front with
  | done e left hread =>
    -- Something would be left over that is not the closing brace.
    rw [hread _ .string] at h
    cases left <;> cases h
  | fails fault hread =>
    rw [hread _ .string] at h
    cases h
  | lacks cause hcause hread =>
    rw [hread _ .string] at h
    cases h
  | awaits hread =>
    have hmissing : ∀ room, Parser.primary room (.close closing) =
        .error ⟨.expectedExpression .close, closing⟩ := by
      intro room
      unfold Parser.primary
      rfl
    rw [hread _ _ .close hmissing]
    rfl

/-- Where an expression is missing, a string without a meaning is the fault that is found, whatever
stands behind it. -/
theorem Awaits.ofTokens_eq_error (h : Awaits front) {fault : SyntaxFault} (hkind : t.kind = .string)
    (hfault : Parser.literal? t = some (.error fault)) :
    ofTokens (.prepend front (.token t behind)) = .error fault := by
  obtain ⟨kind, text, region⟩ := t
  obtain rfl : kind = .string := hkind
  have hhere := h ⟨0, 0⟩
  rw [ofTokens] at hhere ⊢
  cases Parser.course_expression maxNesting front with
  | done e left hread =>
    rw [hread _ .close] at hhere
    cases left <;> cases hhere
  | fails fault' hread =>
    -- A fault in the front does not move with the closing brace.
    have hthere := h ⟨1, 1⟩
    rw [ofTokens, hread _ .close] at hthere
    rw [hread _ .close] at hhere
    cases hhere
    cases hthere
  | lacks cause hcause hread =>
    rw [hread _ .close] at hhere
    exact absurd (congrArg SyntaxFault.cause (Except.error.inj hhere)) (hcause .close)
  | awaits hread =>
    rw [hread _ fault .string fun _ => Parser.primary_of_literal?_eq_error hfault]
    rfl

end Expr

end TemplateLiteral
