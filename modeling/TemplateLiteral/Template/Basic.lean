import TemplateLiteral.Expr.Parser
import TemplateLiteral.Template.Parameters
import TemplateLiteral.Template.Piece

/-!
# Templates

A template is its text, read once: literal segments and markers with their expressions, in the
order of the text. The parameters are looked at before the text is.

## Main definitions

* `Segment`, `Segment.ofText`: the segments of a text
* `Template`, `Template.compile`
-/

namespace TemplateLiteral

/-- A segment of a template. -/
inductive Segment where
  /-- Literal text. -/
  | literal (text : List Char) (region : Region)
  /-- A marker: its expression, and all of its text from the opening to the closing. -/
  | marker (expr : Expr) (text : List Char) (region : Region)
deriving DecidableEq

namespace Segment

/-- The segment that a piece of a text is. -/
def ofPiece : Piece → Except SyntaxFault Segment
  | .literal text region => .ok (.literal text region)
  | .marker tokens text region => (Expr.ofTokens tokens).map (.marker · text region)

/-- The segments of a text, or the first fault in it. -/
def ofText [Text.Alphabet] (text : List Char) : Except SyntaxFault (List Segment) :=
  (Piece.ofText text).mapM ofPiece

/-- The region of a segment. -/
def region : Segment → Region
  | .literal _ region | .marker _ _ region => region

end Segment

/-- A template that can be rendered. -/
structure Template where
  /-- The text that the template was read from. -/
  source : String
  /-- The name of the template in reports. -/
  name : Option String
  /-- The names that its expressions may use. -/
  parameters : Parameters
  /-- The segments of its text. -/
  segments : List Segment

/-- The template with the given text, parameters and name. -/
def Template.compile [Text.Alphabet] (source : String) (parameters : Parameters)
    (name : Option String) :
    Except Diagnostic Template :=
  match parameters.fault? with
  | some fault => .error (fault.diagnostic.inTemplate name)
  | none =>
    match Segment.ofText source.toList with
    | .error fault => .error ((fault.diagnostic source).inTemplate name)
    | .ok segments => .ok ⟨source, name, parameters, segments⟩

end TemplateLiteral
