import TemplateLiteral.Expr.Operator
import TemplateLiteral.Text.Identifier
import TemplateLiteral.Text.Region

/-!
# Tokens

The tokens that an expression is made of. A word is a keyword, a reserved word without meaning
in expressions, or a name.

## Main definitions

* `Keyword`, `TokenKind`, `Token`
* `isReserved`: the words that are no names
* `isIdentifier`: a text is a name and no other word
* `TokenKind.description`: what a token is called in messages
-/

namespace TemplateLiteral

/-! ## Words -/

/-- A word with a meaning of its own in expressions. -/
inductive Keyword where
  | true
  | false
  | null
  | typeof
deriving DecidableEq, Repr

/-- The keyword that a word is, if it is one. -/
def Keyword.ofWord? : String → Option Keyword
  | "true" => some .true
  | "false" => some .false
  | "null" => some .null
  | "typeof" => some .typeof
  | _ => none

/-- How a keyword is written. -/
def Keyword.word : Keyword → String
  | .true => "true"
  | .false => "false"
  | .null => "null"
  | .typeof => "typeof"

/-- The words that name nothing and have no meaning in expressions. -/
def reservedWords : List String := [
  "await", "break", "case", "catch", "class", "const", "continue", "debugger", "default",
  "delete", "do", "else", "enum", "export", "extends", "finally", "for", "function", "if",
  "implements", "import", "in", "instanceof", "interface", "let", "new", "package", "private",
  "protected", "public", "return", "static", "super", "switch", "this", "throw", "try", "var",
  "void", "while", "with", "yield"]

/-- The word is a keyword or reserved. -/
def isReserved (word : String) : Bool :=
  (Keyword.ofWord? word).isSome || reservedWords.contains word

/-- The text is a name: it has the characters of one and is no other word. -/
def isIdentifier [Text.Alphabet] (text : String) : Bool :=
  match text.toList with
  | [] => false
  | c :: cs => Text.isNameStart c && cs.all Text.isNamePart && !isReserved text

/-! ## Tokens -/

/-- The kinds of tokens. -/
inductive TokenKind where
  | string
  | number
  | name
  | reserved
  | keyword (keyword : Keyword)
  /-- The brace that closes a marker. -/
  | close
  | period
  | optionalPeriod
  | question
  | colon
  | comma
  | openParen
  | closeParen
  | openBracket
  | closeBracket
  | exclamation
  | assign
  | operator (operator : BinaryOperator)
deriving DecidableEq, Repr

/-- A token, with the characters it is written with and where they stand. -/
structure Token where
  kind : TokenKind
  text : List Char
  region : Region
deriving DecidableEq, Repr

namespace TokenKind

/-- The kind of token that a word is. -/
def ofWord (word : String) : TokenKind :=
  match Keyword.ofWord? word with
  | some k => .keyword k
  | none => if isReserved word then .reserved else .name

/-- What a token is called in messages. -/
def description : TokenKind → String
  | .string => "string"
  | .number => "number"
  | .name => "identifier"
  | .reserved => "reserved word"
  | .keyword k => "keyword " ++ k.word
  | .close => "end expression (\x7d)"
  | .period => "period (.)"
  | .optionalPeriod => "optional chain (?.)"
  | .question => "question (?)"
  | .colon => "colon (:)"
  | .comma => "comma (,)"
  | .openParen => "open paren (()"
  | .closeParen => "close paren ())"
  | .openBracket => "open bracket ([)"
  | .closeBracket => "close bracket (])"
  | .exclamation => "exclamation (!)"
  | .assign => "assign (=)"
  | .operator op => "operator " ++ op.symbol

end TokenKind

end TemplateLiteral
