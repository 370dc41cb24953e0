import TemplateLiteral.Template.Basic

/-!
# The source text of a template

A template as the text of a function. Its body is one template literal, before which the
declared names are taken out of the values. Literal text is escaped in it, so that the literal
ends where the template does and has the markers that the template has.

## Main definitions

* `escapeLiteral`: literal text inside a template literal
* `Template.sourceText`
-/

namespace TemplateLiteral

/-- Literal text as it stands inside a template literal. A backtick and a backslash are
escaped, and so is a dollar sign that would open a marker. -/
def escapeLiteral : List Char → List Char
  | [] => []
  | '`' :: rest => '\\' :: '`' :: escapeLiteral rest
  | '\\' :: rest => '\\' :: '\\' :: escapeLiteral rest
  | '$' :: '{' :: rest => '\\' :: '$' :: '{' :: escapeLiteral rest
  | c :: rest => c :: escapeLiteral rest

/-- A segment as it stands inside a template literal. -/
def Segment.sourceChars : Segment → List Char
  | .literal text _ => escapeLiteral text
  | .marker _ text _ => text

namespace Template

/-- The segments of a template inside a template literal. -/
def literalChars (t : Template) : List Char :=
  t.segments.flatMap Segment.sourceChars

/-- The line that takes the declared names out of the values, if there are any. -/
def declaration (parameters : Parameters) : String :=
  match parameters.declared with
  | [] => ""
  | names => "  const \x7b " ++ ", ".intercalate names ++ " \x7d = values;\n"

/-- What stands before the template literal, up to its opening. -/
def opening (parameters : Parameters) : String :=
  "function anonymous(" ++ parameters.valueName ++ ") \x7b\n" ++ declaration parameters ++
    "  return `"

/-- What stands after the text of the template literal, from its closing. -/
def closing : String := "`;\n\x7d"

/-- The text of the function that a template is. -/
def sourceText (t : Template) : String :=
  opening t.parameters ++ String.ofList t.literalChars ++ closing

end Template

end TemplateLiteral
