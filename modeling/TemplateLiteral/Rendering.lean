import TemplateLiteral.Evaluation
import TemplateLiteral.Template.Basic

/-!
# Rendering

The output of a template for a store: the text of its segments in order, where a marker has the
text of the value of its expression. The first marker without a value is reported.

## Main definitions

* `Segment.text`: the output of a segment
* `Template.render`: the output of a template
-/

namespace TemplateLiteral

/-- The output of a segment. -/
def Segment.text (scope : Scope) : Segment → Except EvalFault (List Char)
  | .literal text _ => .ok text
  | .marker expr _ _ => do
    return (← scope.evaluate expr).text.toList

namespace Template

/-- The scope of the expressions of a template. -/
def scope (t : Template) (store : Store) : Scope :=
  ⟨t.parameters, store⟩

/-- The output of the segments of a template, or the first fault in them. -/
def output (t : Template) (store : Store) : Except EvalFault (List Char) := do
  return (← t.segments.mapM (Segment.text (t.scope store))).flatten

/-- The output of a template. -/
def render (t : Template) (store : Store) : Except Diagnostic String :=
  match t.output store with
  | .ok text => .ok (String.ofList text)
  | .error fault => .error ((fault.diagnostic t.parameters t.source).inTemplate t.name)

/-- The output of a template for values that are not in a store yet. -/
def renderSerialized (t : Template) (values : Serialized) : Except Diagnostic String := do
  t.render (← Store.ofSerialized values)

end Template

end TemplateLiteral
