import TemplateLiteral.Diagnostic.Basic
import TemplateLiteral.Token.Basic

/-!
# Faults of templates

What can be wrong with the text of a template. Each fault has a cause and a region that it is
shown at.

## Main definitions

* `SyntaxFault.Cause`: what is wrong
* `SyntaxFault`, `SyntaxFault.diagnostic`
-/

namespace TemplateLiteral

/-- How deep expressions may be nested. -/
def maxNesting : Nat := 64

/-- What is wrong with the text of a template. -/
inductive SyntaxFault.Cause where
  /-- No token begins with the character. -/
  | strayCharacter
  /-- A template is quoted inside an expression. -/
  | backtick
  /-- Half of an operator. -/
  | halfOperator (c : Char)
  /-- The line ends before the string does. -/
  | unclosedString (quote : Char)
  /-- The text ends before the expression does. -/
  | endOfText
  /-- The expression is nested too deeply. -/
  | tooDeep
  /-- Two operators stand side by side that may not. -/
  | clash
  /-- Another token should stand here. -/
  | expected (wanted found : TokenKind)
  /-- An expression should stand here. -/
  | expectedExpression (found : TokenKind)
  /-- The name of a property should stand here. -/
  | expectedProperty
  /-- There are no functions to call. -/
  | call
  /-- The word has no meaning. -/
  | reservedWord (word : String)
  /-- An escape names no character. -/
  | badEscape
  /-- A numeral denotes no number. -/
  | unreadableNumber
deriving DecidableEq, Repr

/-- Something that is wrong with the text of a template, and where. -/
structure SyntaxFault where
  cause : SyntaxFault.Cause
  region : Region
deriving DecidableEq, Repr

namespace SyntaxFault

/-- The reason that is reported for a cause. -/
def Cause.reason : Cause → String
  | .strayCharacter | .backtick | .halfOperator _ | .expected .. | .expectedExpression _
  | .expectedProperty => "unexpected token"
  | .unclosedString _ | .clash => "invalid syntax"
  | .endOfText => "unexpected eof"
  | .tooDeep => "expression is nested too deeply"
  | .call | .reservedWord _ => "unsupported syntax"
  | .badEscape => "invalid escape sequence"
  | .unreadableNumber => "unrecognizable number"

/-- The hint for a cause. -/
def Cause.help : Cause → Option String
  | .strayCharacter => some
      ("expected an identifier, a number, an operator, `\x7d` or the beginning of a string literal "
        ++ "marked with `'` or `\"`")
  | .backtick => some
      ("template literals cannot be nested inside of an expression, use a string literal marked "
        ++ "with `'` or `\"`")
  | .halfOperator c => some
      ("expected operator like `+`, `-`, `*`, `/`, `%`, `===`, `!==`, `>=`, `<=`, `&&`, `||`, `??` "
        ++ "or `?`, found `" ++ c.toString ++ "`")
  | .unclosedString quote => some
      ("this might be an undelimited string, try closing it with `" ++ quote.toString ++ "`")
  | .endOfText => some
      "expected additional tokens, did you close every `$\x7b` with `\x7d`?"
  | .tooDeep => some
      ("expressions may be nested at most " ++ toString maxNesting ++
        " levels deep, try splitting this expression into smaller ones")
  | .clash => some "`??` cannot be combined with `&&` or `||` without parentheses"
  | .expected wanted found => some
      ("expected " ++ wanted.description ++ ", found " ++ found.description)
  | .expectedExpression found => some ("expected an expression, found " ++ found.description)
  | .expectedProperty => some "expected a property name such as `person.name`"
  | .call => some "function calls are not supported inside of an expression"
  | .reservedWord word => some
      ("`" ++ word ++ "` is a reserved word and has no meaning inside of an expression")
  | .badEscape => some
      "use `\\xHH`, `\\uHHHH` or `\\u\x7bH...\x7d` with hexadecimal digits"
  | .unreadableNumber => none

/-- The report of a fault in the text of a template. -/
def diagnostic (fault : SyntaxFault) (source : String) : Diagnostic :=
  Diagnostic.pointingAt
    { kind := .malformed, reason := fault.cause.reason, help := fault.cause.help }
    source fault.region

end SyntaxFault

end TemplateLiteral
