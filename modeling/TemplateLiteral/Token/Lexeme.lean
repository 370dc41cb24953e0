import TemplateLiteral.Expr.Quoted
import TemplateLiteral.Number.Numeral
import TemplateLiteral.Token.Fault

/-!
# Lexemes

The first token of the text of an expression. The longest token is meant, with one exception:
a question mark before a point and a digit is a token of its own, so that `a?.5:1` chooses
between two numbers.

## Main definitions

* `Lexeme.signs`, `Lexeme.operator?`: tokens that are written with signs
* `Lexeme.first`: the kind of the first token, and how many characters it has after its first
-/

namespace TemplateLiteral.Lexeme

/-- The text begins with a digit. -/
def startsWithDigit : List Char → Bool
  | [] => false
  | c :: _ => Number.isDigitOf 10 c

/-- The tokens that are written with signs. A sign stands before all those that it begins with. -/
def signs : List (List Char × TokenKind) := [
  (['=', '=', '='], .operator .strictEqual),
  (['!', '=', '='], .operator .strictNotEqual),
  (['?', '?'], .operator .nullish),
  (['?', '.'], .optionalPeriod),
  (['=', '='], .operator .equal),
  (['!', '='], .operator .notEqual),
  (['>', '='], .operator .greaterOrEqual),
  (['<', '='], .operator .lessOrEqual),
  (['&', '&'], .operator .and),
  (['|', '|'], .operator .or),
  (['.'], .period),
  (['?'], .question),
  ([':'], .colon),
  ([','], .comma),
  (['('], .openParen),
  ([')'], .closeParen),
  (['['], .openBracket),
  ([']'], .closeBracket),
  (['+'], .operator .add),
  (['-'], .operator .subtract),
  (['*'], .operator .multiply),
  (['/'], .operator .divide),
  (['%'], .operator .remainder),
  (['='], .assign),
  (['!'], .exclamation),
  (['>'], .operator .greater),
  (['<'], .operator .less)]

/-- The text begins with the sign. The point of `?.` belongs to a number if a digit follows it, so
that the question mark in front of it asks a question. -/
def begins (text : List Char) (sign : List Char × TokenKind) : Bool :=
  sign.1.isPrefixOf text &&
    !(sign.2 = .optionalPeriod && startsWithDigit (text.drop sign.1.length))

/-- The token that is written with the given sign and perhaps more of the signs after it, and
how many of these it has. -/
def operator? (c : Char) (rest : List Char) : Option (TokenKind × Nat) :=
  (signs.find? (begins (c :: rest))).map fun (sign, kind) => (kind, sign.length - 1)

/-- The character is no end of a line. -/
def staysOnLine (c : Char) : Bool :=
  c ≠ '\n' && c ≠ '\r'

/-- The first token of a text that begins with `c` and goes on with `rest`: its kind, and how
many characters of `rest` belong to it. Where there is no token, the cause, and how many
characters of `rest` are shown with it. -/
def first [Text.Alphabet] (c : Char) (rest : List Char) :
    Except (SyntaxFault.Cause × Nat) (TokenKind × Nat) :=
  if Number.isDigitOf 10 c || (c = '.' && startsWithDigit rest) then
    .ok (.number, Number.Numeral.length (c :: rest) - 1)
  else match operator? c rest with
    | some (kind, more) => .ok (kind, more)
    | none =>
      if c = '\'' ∨ c = '"' then
        match Quoted.length? c rest with
        | some length => .ok (.string, length)
        -- All of the line is shown, since the quote may be missing anywhere in it.
        | none => .error (.unclosedString c, (rest.takeWhile staysOnLine).length)
      else if c = '&' ∨ c = '|' then .error (.halfOperator c, 0)
      else if c = '`' then .error (.backtick, 0)
      else if Text.isNameStart c then
        let more := rest.takeWhile Text.isNamePart
        .ok (.ofWord (String.ofList (c :: more)), more.length)
      else
        .error (.strayCharacter, 0)

end TemplateLiteral.Lexeme
