import TemplateLiteral.Expr.Basic
import TemplateLiteral.Token.Stream

/-!
# Reading expressions

The tree of the tokens of a marker. From the loosest to the tightest:

```text
a ? b : c              the branches are expressions again
??  ||  &&             `??` may not stand beside the other two
== != === !==
< > <= >=
+ -
* / %
! - + typeof           before an operand
. ?. []                after a receiver
```

Operators between operands group to the left. How deep an expression may be nested is bounded:
parentheses, computed properties and branches take one level of room more than what surrounds
them, and so do the operand of an operator before it, the right operand of an operator, and
each further operator or property of the same chain. The room shrinks with every step inward,
so that reading comes to an end.

## Main definitions

* `Parser.expression`, and below it one function to a level of the grammar
* `Expr.ofTokens`: the expression of a marker
-/

namespace TemplateLiteral

namespace TokenStream

/-- The fault of a stream that does not go on as it should, given the fault for a wrong token. -/
def unexpected (cause : TokenKind → SyntaxFault.Cause) : TokenStream → SyntaxFault
  | .token t _ => ⟨cause t.kind, t.region⟩
  | .close region => ⟨cause .close, region⟩
  | .endOfText place => ⟨.endOfText, ⟨place, place⟩⟩
  | .fault f => f

end TokenStream

namespace Parser

/-! ## Single tokens -/

/-- Takes the token that has to come next. -/
def expect (wanted : TokenKind) (tokens : TokenStream) : Except SyntaxFault (Token × TokenStream) :=
  match tokens with
  | .token t rest =>
    if t.kind = wanted then .ok (t, rest) else .error ⟨.expected wanted t.kind, t.region⟩
  | tokens => .error (tokens.unexpected (.expected wanted))

/-- Takes the name of a property, which may be any word. -/
def propertyName (tokens : TokenStream) : Except SyntaxFault (Token × TokenStream) :=
  match tokens with
  | .token t rest =>
    match t.kind with
    | .name | .reserved | .keyword _ => .ok (t, rest)
    | _ => .error ⟨.expectedProperty, t.region⟩
  | tokens => .error (tokens.unexpected fun _ => .expectedProperty)

/-- The operator before an operand that a token is. -/
def unaryOperator? : TokenKind → Option UnaryOperator
  | .exclamation => some .not
  | .operator .subtract => some .negate
  | .operator .add => some .plus
  | .keyword .typeof => some .typeof
  | _ => none

/-- The value of a token that is written out. -/
def literal? (t : Token) : Option (Except SyntaxFault Literal) :=
  match t.kind with
  | .number =>
    match Number.Numeral.read? t.text with
    | some x => some (.ok (.number x))
    | none => some (.error ⟨.unreadableNumber, t.region⟩)
  | .string =>
    match Quoted.decode? t.text.tail.dropLast with
    | some text => some (.ok (.string (String.ofList text)))
    | none => some (.error ⟨.badEscape, t.region⟩)
  | .keyword .true => some (.ok (.boolean true))
  | .keyword .false => some (.ok (.boolean false))
  | .keyword .null => some (.ok .null)
  | _ => none

/-! ## Expressions -/

mutual

/-- An expression of its own, which takes one level of room. -/
def expression (room : Nat) (tokens : TokenStream) : Except SyntaxFault (Expr × TokenStream) :=
  match tokens, room with
  -- A stream that has ended says more than that the room has.
  | .endOfText place, _ => .error ⟨.endOfText, ⟨place, place⟩⟩
  | .fault f, _ => .error f
  | tokens, 0 => .error (tokens.unexpected fun _ => .tooDeep)
  | tokens, room + 1 => conditional room tokens
termination_by (room, 0)

/-- A choice, or what would be its test. -/
def conditional (room : Nat) (tokens : TokenStream) : Except SyntaxFault (Expr × TokenStream) := do
  let (test, tokens) ← binary room 1 tokens
  match tokens with
  | .token ⟨.question, _, _⟩ tokens =>
    let (yes, tokens) ← expression room tokens
    let (_, tokens) ← expect .colon tokens
    let (no, tokens) ← expression room tokens
    return (.conditional test yes no (test.region.cover no.region), tokens)
  | .fault f => .error f
  | tokens => return (test, tokens)
termination_by (room, 5)

/-- Operands with operators between them that bind at least as tightly as `least`. -/
def binary (room least : Nat) (tokens : TokenStream) : Except SyntaxFault (Expr × TokenStream) := do
  let (left, tokens) ← unary room tokens
  operators room least left tokens
termination_by (room, 4)

/-- The operators after an operand that bind at least as tightly as `least`. -/
def operators (room least : Nat) (left : Expr) (tokens : TokenStream) :
    Except SyntaxFault (Expr × TokenStream) :=
  match tokens with
  | .token ⟨.operator op, _, region⟩ rest =>
    if least ≤ op.precedence then
      match room with
      | 0 => .error ⟨.tooDeep, region⟩
      | room + 1 => do
        -- Only tighter operators go to the right operand, which groups equal ones to the left.
        let (right, rest) ← binary room (op.precedence + 1) rest
        if left.clashesWith op || right.clashesWith op then
          .error ⟨.clash, region⟩
        else
          operators room least (.binary op left right (left.region.cover right.region)) rest
    else
      .ok (left, tokens)
  | .fault f => .error f
  | tokens => .ok (left, tokens)
termination_by (room, 0)

/-- Operators before an operand. -/
def unary (room : Nat) (tokens : TokenStream) : Except SyntaxFault (Expr × TokenStream) :=
  match tokens with
  | .token t rest =>
    match unaryOperator? t.kind with
    | some op =>
      match room with
      | 0 => .error ⟨.tooDeep, t.region⟩
      | room + 1 => do
        let (operand, rest) ← unary room rest
        return (.unary op operand (t.region.cover operand.region), rest)
    | none => member room tokens
  | tokens => member room tokens
termination_by (room, 3)

/-- A value and the properties read from it. -/
def member (room : Nat) (tokens : TokenStream) : Except SyntaxFault (Expr × TokenStream) := do
  let (receiver, tokens) ← primary room tokens
  links room receiver tokens
termination_by (room, 2)

/-- The properties after a receiver. -/
def links (room : Nat) (receiver : Expr) (tokens : TokenStream) :
    Except SyntaxFault (Expr × TokenStream) :=
  match tokens with
  | .token ⟨.period, _, region⟩ rest =>
    match room with
    | 0 => .error ⟨.tooDeep, region⟩
    | room + 1 => do
      let (name, rest) ← propertyName rest
      links room (.member receiver (String.ofList name.text) name.region false
        (receiver.region.cover name.region)) rest
  | .token ⟨.optionalPeriod, _, region⟩ rest =>
    match room with
    | 0 => .error ⟨.tooDeep, region⟩
    | room + 1 =>
      match rest with
      | .token ⟨.openBracket, _, _⟩ rest => do
        let (index, rest) ← expression room rest
        let (close, rest) ← expect .closeBracket rest
        links room (.index receiver index true (receiver.region.cover close.region)) rest
      | .token ⟨.openParen, _, region⟩ _ => .error ⟨.call, region⟩
      | rest => do
        let (name, rest) ← propertyName rest
        links room (.member receiver (String.ofList name.text) name.region true
          (receiver.region.cover name.region)) rest
  | .token ⟨.openBracket, _, region⟩ rest =>
    match room with
    | 0 => .error ⟨.tooDeep, region⟩
    | room + 1 => do
      let (index, rest) ← expression room rest
      let (close, rest) ← expect .closeBracket rest
      links room (.index receiver index false (receiver.region.cover close.region)) rest
  | .token ⟨.openParen, _, region⟩ _ => .error ⟨.call, region⟩
  | .fault f => .error f
  | tokens => .ok (receiver, tokens)
termination_by (room, 0)

/-- A value written out, a name, or an expression in parentheses. -/
def primary (room : Nat) (tokens : TokenStream) : Except SyntaxFault (Expr × TokenStream) :=
  match tokens with
  | .token t rest =>
    match literal? t with
    | some value => do return (.literal (← value) t.region, rest)
    | none =>
      match t.kind with
      | .name => .ok (.name (String.ofList t.text) t.region, rest)
      | .openParen => do
        let (inner, rest) ← expression room rest
        let (close, rest) ← expect .closeParen rest
        return (.group inner (t.region.cover close.region), rest)
      | .reserved => .error ⟨.reservedWord (String.ofList t.text), t.region⟩
      | found => .error ⟨.expectedExpression found, t.region⟩
  | tokens => .error (tokens.unexpected .expectedExpression)
termination_by (room, 1)

end

end Parser

/-- The expression of a marker, which is all that stands before the closing brace. -/
def Expr.ofTokens (tokens : TokenStream) : Except SyntaxFault Expr := do
  let (e, rest) ← Parser.expression maxNesting tokens
  match rest with
  | .close _ => return e
  | rest => .error (rest.unexpected (.expected .close))

end TemplateLiteral
