import TemplateLiteral.Data.Basic
import TemplateLiteral.Number.Format
import TemplateLiteral.Number.Remainder

/-!
# Data as text

The text of data in rendered output. The items of an array are joined by commas, null items
leave nothing between them, and arrays in arrays run into the same list. An object shows
nothing of its fields.

## Main definitions

* `Data.text`: the text of data
-/

namespace TemplateLiteral

/-- The text of a number in rendered output. -/
def Number.text (x : Float) : String :=
  String.ofList (Number.Format.rendered.write x)

namespace Data

/-- The text of an object. -/
def objectText : String := "[object Object]"

mutual

/-- The text of data. -/
def text : Data → String
  | .null => "null"
  | .boolean true => "true"
  | .boolean false => "false"
  | .integer n => Number.text (Number.ofInt n)
  | .fraction x => Number.text x
  | .string text => text
  | .array items => ",".intercalate (itemTexts items)
  | .object _ => objectText

/-- The texts of the items of an array. -/
def itemTexts : List Data → List String
  | [] => []
  | .null :: rest => "" :: itemTexts rest
  | item :: rest => text item :: itemTexts rest

end

end Data

end TemplateLiteral
